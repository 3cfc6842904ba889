/-
# Processing.TempDisk -- the temporary disk the jobs of a worker share

Each job reserves its source, two images and a watermark before it touches the disk.  Bytes are
turned into permits of 1 MiB in two places, and both round up: a job holds at least what it
reserved, and the pool has at least what the policy allows.  The second rounding is the wrong way
round, so jobs can together reserve up to a mebibyte more than the policy allows.

* `temp_disk_reservation`: the reservations stay within `max_temp_disk_bytes` exactly where that
  is a whole number of mebibytes, or too small for two jobs, if the rest of the configuration is
  free; in one configuration, exactly where no sizes it admits fit in the pool and not in the
  bytes; and every job fits in the pool, so it is granted once the others release.
* `temp_disk_overrun`: two jobs that hold 34 MiB of 33 MiB and a byte.
-/
import MediaBooster.Config.Settings
import MediaBooster.Service.Rehearsal
import MediaBooster.Theory.Permits

namespace MediaBooster.Processing

set_option autoImplicit false

open MediaBooster.Config MediaBooster.Domain MediaBooster.Service MediaBooster.Theory.Permits
open MediaBooster.Theory.Run

/-! ## Permits -/

/-- The permits some bytes need, before they are narrowed to `u32`. -/
def permitsFor (bytes : Nat) : Nat :=
  bytes / tempDiskPermitBytes + if bytes % tempDiskPermitBytes = 0 then 0 else 1

/-- Permits cover what they are for. -/
theorem le_permitsFor (bytes : Nat) : bytes ≤ permitsFor bytes * tempDiskPermitBytes := by
  unfold permitsFor tempDiskPermitBytes
  split <;> omega

/-- The permits cover less than a mebibyte too much. -/
theorem permitsFor_lt (bytes : Nat) :
    permitsFor bytes * tempDiskPermitBytes < bytes + tempDiskPermitBytes := by
  unfold permitsFor tempDiskPermitBytes
  split <;> omega

theorem permitsFor_mono {a b : Nat} (le : a ≤ b) : permitsFor a ≤ permitsFor b := by
  have lower := permitsFor_lt a
  have upper := le_permitsFor b
  unfold tempDiskPermitBytes at lower upper
  omega

/-- Whole mebibytes are covered exactly. -/
theorem permitsFor_whole {bytes : Nat} (whole : tempDiskPermitBytes ∣ bytes) :
    permitsFor bytes * tempDiskPermitBytes = bytes := by
  obtain ⟨permits, rfl⟩ := whole
  have lower := permitsFor_lt (tempDiskPermitBytes * permits)
  have upper := le_permitsFor (tempDiskPermitBytes * permits)
  unfold tempDiskPermitBytes at lower upper ⊢
  omega

theorem tempDiskPermits_eq {bytes : Nat} (bounded : bytes ≤ maxTempDiskTotal) :
    tempDiskPermits bytes = some (permitsFor bytes) := by
  have fits := permitsFor_lt bytes
  unfold tempDiskPermits
  rw [u32TryFrom_eq_some]
  refine ⟨rfl, ?_⟩
  unfold maxTempDiskTotal at bounded
  unfold tempDiskPermitBytes at fits
  omega

/-! ## Jobs of a worker -/

/-- A job whose source is within the limit of its kind. -/
structure AdmittedJob (worker : SourceValidationWorker) where
  declaredKind : MediaKind
  expectedSizeBytes : Nat
  admitted : expectedSizeBytes ≤ worker.maxLength declaredKind

/-- The temporary disk a job is reserved. -/
def reservation {worker : SourceValidationWorker} (job : AdmittedJob worker) : Nat :=
  job.expectedSizeBytes + worker.policy.maxImageBytes * 2 + maxWatermarkBytes

/-- The permits of the worker's semaphore. -/
def totalPermits (worker : SourceValidationWorker) : Nat :=
  (tempDiskPermits worker.policy.maxTempDiskBytes).getD 0

/-- The permits a job asks for. -/
def jobPermits {worker : SourceValidationWorker} (job : AdmittedJob worker) : Nat :=
  (worker.reservedPermits job.expectedSizeBytes).getD 0

/-- The jobs of a worker that hold temporary disk, and those that wait for it. -/
abbrev TempDisk (worker : SourceValidationWorker) := Pool (AdmittedJob worker)

/-- The runs of the worker's semaphore. -/
abbrev RunsTempDisk (worker : SourceValidationWorker) (before : TempDisk worker)
    (events : List (Theory.Permits.Event (AdmittedJob worker))) (after : TempDisk worker) : Prop :=
  Trace (Theory.Permits.Step (totalPermits worker) jobPermits) before events after

/-- Before any job. -/
def noJobs (worker : SourceValidationWorker) : TempDisk worker := ⟨[], []⟩

/-- The bytes reserved by the jobs that hold permits. -/
def reservedBytes {worker : SourceValidationWorker} (disk : TempDisk worker) : Nat :=
  weigh reservation disk.held

/-- A worker as the process builds it of an accepted configuration. -/
structure Configured (settings : Settings) (worker : SourceValidationWorker) : Prop where
  valid : settings.validate = .ok ()
  maxImageBytes : worker.policy.maxImageBytes = settings.upload.maxImageBytes
  maxVideoBytes : worker.policy.maxVideoBytes = settings.upload.maxVideoBytes
  maxTempDiskBytes : worker.policy.maxTempDiskBytes = settings.worker.maxTempDiskBytes

section Worker

variable {worker : SourceValidationWorker}

/-- What a valid policy says about the temporary disk. -/
theorem policy_tempDisk (worker : SourceValidationWorker) :
    worker.policy.maxImageBytes ≠ 0 ∧
      max worker.policy.maxImageBytes worker.policy.maxVideoBytes +
        worker.policy.maxImageBytes * 2 + maxWatermarkBytes ≤ worker.policy.maxTempDiskBytes ∧
      worker.policy.maxTempDiskBytes ≤ maxTempDiskTotal := by
  have valid := worker.valid
  simp only [WorkerPolicy.isValid, Bool.and_eq_true, bne_iff_ne, decide_eq_true_eq] at valid
  obtain ⟨⟨⟨⟨⟨⟨⟨-, images⟩, -⟩, required⟩, bounded⟩, -⟩, -⟩, -⟩ := valid
  refine ⟨images, ?_, bounded⟩
  obtain ⟨needed, known, within⟩ := (Option.any_eq_true _ _).1 required
  rw [decide_eq_true_eq] at within
  simp only [requiredTempDiskBytes, Option.bind_eq_bind, Option.bind_eq_some_iff,
    u64CheckedMul_eq_some, u64CheckedAdd_eq_some] at known
  obtain ⟨_, ⟨rfl, -⟩, _, ⟨rfl, -⟩, rfl, -⟩ := known
  omega

theorem totalPermits_eq (worker : SourceValidationWorker) :
    totalPermits worker = permitsFor worker.policy.maxTempDiskBytes := by
  unfold totalPermits
  rw [tempDiskPermits_eq (policy_tempDisk worker).2.2, Option.getD_some]

/-- No job reserves more than the whole. -/
theorem reservation_le (job : AdmittedJob worker) :
    reservation job ≤ worker.policy.maxTempDiskBytes := by
  have required := (policy_tempDisk worker).2.1
  have admitted : job.expectedSizeBytes ≤
      max worker.policy.maxImageBytes worker.policy.maxVideoBytes := by
    refine job.admitted.trans ?_
    cases job.declaredKind with
    | image => exact Nat.le_max_left _ _
    | video => exact Nat.le_max_right _ _
  unfold reservation
  omega

/-- An admitted job's reservation can be turned into permits. -/
theorem reservedPermits_eq (job : AdmittedJob worker) :
    worker.reservedPermits job.expectedSizeBytes = some (permitsFor (reservation job)) := by
  have within := reservation_le job
  have bounded := (policy_tempDisk worker).2.2
  have small : reservation job < 2 ^ 64 := by
    unfold maxTempDiskTotal at bounded
    omega
  unfold reservation at small
  unfold SourceValidationWorker.reservedPermits
  simp only [Option.bind_eq_bind, Option.bind_eq_some_iff, u64CheckedMul_eq_some,
    u64CheckedAdd_eq_some]
  refine ⟨_, ⟨rfl, by omega⟩, _, ⟨rfl, by omega⟩, _, ⟨rfl, by omega⟩, ?_⟩
  exact tempDiskPermits_eq (within.trans bounded)

theorem jobPermits_eq (job : AdmittedJob worker) :
    jobPermits job = permitsFor (reservation job) := by
  unfold jobPermits
  rw [reservedPermits_eq, Option.getD_some]

/-- Every admitted job fits in the pool. -/
theorem jobPermits_le (job : AdmittedJob worker) : jobPermits job ≤ totalPermits worker := by
  rw [jobPermits_eq, totalPermits_eq]
  exact permitsFor_mono (reservation_le job)

/-- Jobs hold at least the permits of what they reserved. -/
theorem weigh_reservation_le (jobs : List (AdmittedJob worker)) :
    weigh reservation jobs ≤ weigh jobPermits jobs * tempDiskPermitBytes := by
  induction jobs with
  | nil => exact Nat.zero_le _
  | cons job jobs ih =>
      have covers := le_permitsFor (reservation job)
      rw [← jobPermits_eq] at covers
      rw [weigh_cons, weigh_cons, Nat.add_mul]
      omega

/-- A job asks for 17 permits at least: the watermark alone is 16. -/
theorem seventeen_le (job : AdmittedJob worker) : 17 ≤ jobPermits job := by
  have images := (policy_tempDisk worker).1
  have covers := le_permitsFor (reservation job)
  rw [jobPermits_eq]
  unfold reservation maxWatermarkBytes tempDiskPermitBytes at covers
  unfold reservation maxWatermarkBytes
  omega

/-- The jobs of a run never hold more permits than there are. -/
theorem permits_held_le {events : List (Theory.Permits.Event (AdmittedJob worker))}
    {disk : TempDisk worker} (run : RunsTempDisk worker (noJobs worker) events disk) :
    weigh jobPermits disk.held ≤ totalPermits worker :=
  weight_held_le run (Nat.zero_le _)

/-- Where the pool is exactly the policy's bytes, the reservations stay within them. -/
theorem reservedBytes_le_of_whole {events : List (Theory.Permits.Event (AdmittedJob worker))}
    {disk : TempDisk worker} (run : RunsTempDisk worker (noJobs worker) events disk)
    (whole : tempDiskPermitBytes ∣ worker.policy.maxTempDiskBytes) :
    reservedBytes disk ≤ worker.policy.maxTempDiskBytes := by
  calc reservedBytes disk
      ≤ weigh jobPermits disk.held * tempDiskPermitBytes := weigh_reservation_le disk.held
    _ ≤ totalPermits worker * tempDiskPermitBytes := Nat.mul_le_mul_right _ (permits_held_le run)
    _ = worker.policy.maxTempDiskBytes := by rw [totalPermits_eq, permitsFor_whole whole]

/-- Where only one job fits, its reservation stays within the policy's bytes. -/
theorem reservedBytes_le_of_small {events : List (Theory.Permits.Event (AdmittedJob worker))}
    {disk : TempDisk worker} (run : RunsTempDisk worker (noJobs worker) events disk)
    (small : worker.policy.maxTempDiskBytes ≤ 33 * tempDiskPermitBytes) :
    reservedBytes disk ≤ worker.policy.maxTempDiskBytes := by
  have within := permits_held_le run
  have few : totalPermits worker ≤ 33 := by
    have bound := permitsFor_lt worker.policy.maxTempDiskBytes
    rw [totalPermits_eq]
    unfold tempDiskPermitBytes at bound small
    omega
  obtain ⟨held, waiting⟩ := disk
  show weigh reservation held ≤ _
  change weigh jobPermits held ≤ _ at within
  rcases held with _ | ⟨first, _ | ⟨second, more⟩⟩
  · exact Nat.zero_le _
  · exact reservation_le first
  · have one := seventeen_le first
    have two := seventeen_le second
    rw [weigh_cons, weigh_cons] at within
    omega

end Worker

/-! ## Two jobs that fill the pool -/

/-- A configuration of two concurrent jobs, with images of one byte. -/
def twoJobSettings (maxVideoBytes maxTempDiskBytes : Nat) : Settings where
  upload :=
    { maxBatchFiles := 1, maxBatchBytes := maxTempDiskTotal, maxImageBytes := 1
      maxVideoBytes := maxVideoBytes, multipartThresholdBytes := 1
      multipartPartSizeBytes := 5 * 1024 * 1024, maxBrowserConnections := 1
      maxPartsPerFile := 1, maxActiveUploadsGlobal := 1, maxActiveUploadsPerTenant := 1
      maxReservedBytesGlobal := maxTempDiskTotal, maxReservedBytesPerTenant := maxTempDiskTotal }
  worker :=
    { maxConcurrentJobs := 2, maxConcurrentHeavyImages := 1, maxConcurrentVideos := 1
      nativeThreadsPerJob := 1, imageTimeoutSeconds := 30, videoTimeoutSeconds := 30
      sandboxBinary := "sandbox", tempDirectory := "tmp", maxTempDiskBytes := maxTempDiskBytes
      leaseSeconds := 60, heartbeatSeconds := 1, pollIntervalMs := 1, retryDelaySeconds := 1
      maxAttempts := 2, maxSandboxOutputBytes := 1024, metricsBindLoopback := true }

/-- The policy built of it. -/
def twoJobPolicy (maxVideoBytes maxTempDiskBytes : Nat) : WorkerPolicy :=
  { sampleWorkerPolicy with
    maxImageBytes := 1, maxVideoBytes := maxVideoBytes, maxTempDiskBytes := maxTempDiskBytes }

/-- The bounds under which the configuration is accepted. -/
structure TwoJobs (maxVideoBytes maxTempDiskBytes : Nat) : Prop where
  positive : 0 < maxVideoBytes
  enough : maxVideoBytes + 2 + maxWatermarkBytes ≤ maxTempDiskBytes
  bounded : maxTempDiskBytes ≤ maxTempDiskTotal

section TwoJobs

variable {maxVideoBytes maxTempDiskBytes : Nat}

theorem twoJobSettings_valid (bounds : TwoJobs maxVideoBytes maxTempDiskBytes) :
    (twoJobSettings maxVideoBytes maxTempDiskBytes).validate = .ok () := by
  obtain ⟨positive, enough, bounded⟩ := bounds
  unfold maxWatermarkBytes at enough
  unfold maxTempDiskTotal at bounded
  have uploads : (twoJobSettings maxVideoBytes maxTempDiskBytes).upload.violates = false := by
    unfold UploadSettings.violates
    rw [decide_eq_false_iff_not]
    simp only [twoJobSettings, maxTempDiskTotal, i64Max]
    omega
  have workers : (twoJobSettings maxVideoBytes maxTempDiskBytes).worker.violates
      (twoJobSettings maxVideoBytes maxTempDiskBytes).upload = false := by
    unfold WorkerSettings.violates
    rw [decide_eq_false_iff_not]
    have minimum : minimumTempDiskBytes (twoJobSettings maxVideoBytes maxTempDiskBytes).upload ≤
        maxTempDiskBytes := by
      simp only [twoJobSettings, minimumTempDiskBytes, saturatingAdd, saturatingMul]
      omega
    have named : "sandbox".isEmpty = false ∧ "tmp".isEmpty = false := by decide
    simp only [twoJobSettings, saturatingMul, named, Bool.false_eq_true, Bool.true_eq_false,
      false_or] at minimum ⊢
    omega
  unfold Settings.validate
  rw [uploads, workers]
  rfl

theorem twoJobPolicy_valid (bounds : TwoJobs maxVideoBytes maxTempDiskBytes) :
    (twoJobPolicy maxVideoBytes maxTempDiskBytes).isValid = true := by
  obtain ⟨positive, enough, bounded⟩ := bounds
  have sample := sampleWorkerPolicy_valid
  simp only [WorkerPolicy.isValid, Bool.and_eq_true] at sample ⊢
  obtain ⟨⟨⟨⟨⟨⟨⟨kept, -⟩, -⟩, -⟩, -⟩, -⟩, directory⟩, watermark⟩ := sample
  refine ⟨⟨⟨⟨⟨⟨⟨kept, rfl⟩, bne_iff_ne.2 (Nat.ne_of_gt positive)⟩, ?_⟩, decide_eq_true bounded⟩, ?_⟩,
    directory⟩, watermark⟩
  · unfold maxTempDiskTotal at bounded
    have required : requiredTempDiskBytes 1 maxVideoBytes =
        some (1 * 2 + max 1 maxVideoBytes + maxWatermarkBytes) := by
      unfold maxWatermarkBytes at enough
      simp only [requiredTempDiskBytes, Option.bind_eq_bind, Option.bind_eq_some_iff,
        u64CheckedMul_eq_some, u64CheckedAdd_eq_some, maxWatermarkBytes]
      exact ⟨_, ⟨rfl, by omega⟩, _, ⟨rfl, by omega⟩, rfl, by omega⟩
    show (requiredTempDiskBytes 1 maxVideoBytes).any _ = true
    rw [required, Option.any_some]
    refine decide_eq_true ?_
    show 1 * 2 + max 1 maxVideoBytes + maxWatermarkBytes ≤ maxTempDiskBytes
    omega
  · show (tempDiskPermits maxTempDiskBytes).isSome = true
    rw [tempDiskPermits_eq bounded, Option.isSome_some]

/-- The worker built of it. -/
def twoJobWorker (bounds : TwoJobs maxVideoBytes maxTempDiskBytes) : SourceValidationWorker where
  rawStore := ⟨"raw"⟩
  derivativeStore := ⟨"media"⟩
  policy := twoJobPolicy maxVideoBytes maxTempDiskBytes
  valid := twoJobPolicy_valid bounds

theorem twoJobWorker_configured (bounds : TwoJobs maxVideoBytes maxTempDiskBytes) :
    Configured (twoJobSettings maxVideoBytes maxTempDiskBytes) (twoJobWorker bounds) where
  valid := twoJobSettings_valid bounds
  maxImageBytes := rfl
  maxVideoBytes := rfl
  maxTempDiskBytes := rfl

/-- A video job of the worker. -/
def videoJob (bounds : TwoJobs maxVideoBytes maxTempDiskBytes) (size : Nat)
    (fits : size ≤ maxVideoBytes) : AdmittedJob (twoJobWorker bounds) := ⟨.video, size, fits⟩

theorem reservation_videoJob (bounds : TwoJobs maxVideoBytes maxTempDiskBytes) {size : Nat}
    (fits : size ≤ maxVideoBytes) :
    reservation (videoJob bounds size fits) = size + 2 + maxWatermarkBytes := rfl

/-- Two videos, one after the other. -/
theorem twoJobWorker_runs (bounds : TwoJobs maxVideoBytes maxTempDiskBytes)
    {first second : AdmittedJob (twoJobWorker bounds)}
    (fit : jobPermits first + jobPermits second ≤ totalPermits (twoJobWorker bounds)) :
    RunsTempDisk (twoJobWorker bounds) (noJobs _)
      [.queued first, .granted, .queued second, .granted] ⟨[second, first], []⟩ := by
  refine .cons (.queued first) (.cons (.granted ?_) (.cons (.queued second) (.single (.granted ?_))))
  · show 0 + jobPermits first ≤ _
    omega
  · show jobPermits first + 0 + jobPermits second ≤ _
    omega

/-- Two videos whose permits fit overrun the disk if their bytes do not fit. -/
theorem twoJobs_overrun (bounds : TwoJobs maxVideoBytes maxTempDiskBytes) {size : Nat}
    (fits : size ≤ maxVideoBytes)
    (filled : permitsFor (size + 2 + maxWatermarkBytes) +
      permitsFor (maxVideoBytes + 2 + maxWatermarkBytes) ≤ permitsFor maxTempDiskBytes)
    (exceeds : maxTempDiskBytes <
      size + 2 + maxWatermarkBytes + (maxVideoBytes + 2 + maxWatermarkBytes)) :
    ∃ settings worker, Configured settings worker ∧
      settings.worker.maxTempDiskBytes = maxTempDiskBytes ∧
      ∃ events disk, RunsTempDisk worker (noJobs worker) events disk ∧
        (disk.held ++ disk.waiting).length ≤ settings.worker.maxConcurrentJobs ∧
        maxTempDiskBytes < reservedBytes disk := by
  have total : totalPermits (twoJobWorker bounds) = permitsFor maxTempDiskBytes :=
    totalPermits_eq (twoJobWorker bounds)
  have fit : jobPermits (videoJob bounds size fits) +
      jobPermits (videoJob bounds maxVideoBytes (le_refl _)) ≤
        totalPermits (twoJobWorker bounds) := by
    rw [jobPermits_eq, jobPermits_eq, reservation_videoJob, reservation_videoJob, total]
    exact filled
  refine ⟨_, _, twoJobWorker_configured bounds, rfl, _, _, twoJobWorker_runs bounds fit,
    le_refl _, ?_⟩
  unfold reservedBytes
  rw [weigh_cons, weigh_cons, weigh_nil, reservation_videoJob, reservation_videoJob]
  omega

/-- A pool that is not a whole number of mebibytes, and large enough for two jobs, is overrun. -/
theorem overrun (bounded : maxTempDiskBytes ≤ maxTempDiskTotal)
    (ragged : ¬ tempDiskPermitBytes ∣ maxTempDiskBytes)
    (large : 33 * tempDiskPermitBytes < maxTempDiskBytes) :
    ∃ settings worker, Configured settings worker ∧
      settings.worker.maxTempDiskBytes = maxTempDiskBytes ∧
      ∃ events disk, RunsTempDisk worker (noJobs worker) events disk ∧
        (disk.held ++ disk.waiting).length ≤ settings.worker.maxConcurrentJobs ∧
        maxTempDiskBytes < reservedBytes disk := by
  have covers := le_permitsFor maxTempDiskBytes
  have close := permitsFor_lt maxTempDiskBytes
  have apart : permitsFor maxTempDiskBytes * tempDiskPermitBytes ≠ maxTempDiskBytes :=
    fun same => ragged ⟨_, by rw [Nat.mul_comm, same]⟩
  have positive : 0 < tempDiskPermitBytes := by decide
  have whole : ∀ n, permitsFor (n * tempDiskPermitBytes) = n := fun n =>
    Nat.eq_of_mul_eq_mul_right positive (permitsFor_whole ⟨n, Nat.mul_comm _ _⟩)
  generalize total : permitsFor maxTempDiskBytes = permits at covers close apart
  -- a first video of 17 permits, and a second one of all the others
  obtain ⟨rest, split⟩ : ∃ rest, permits = 33 + rest ∧ 1 ≤ rest := by
    refine ⟨permits - 33, ?_⟩
    unfold tempDiskPermitBytes at covers large
    omega
  obtain ⟨size, sized⟩ : ∃ size, size + 2 = tempDiskPermitBytes := ⟨1048574, rfl⟩
  obtain ⟨video, filmed⟩ : ∃ video, video + 2 = rest * tempDiskPermitBytes := by
    refine ⟨rest * tempDiskPermitBytes - 2, ?_⟩
    unfold tempDiskPermitBytes
    omega
  have watermark : maxWatermarkBytes = 16 * tempDiskPermitBytes := by decide
  have one : size + 2 + maxWatermarkBytes = 17 * tempDiskPermitBytes := by omega
  have two : video + 2 + maxWatermarkBytes = (rest + 16) * tempDiskPermitBytes := by
    rw [filmed, watermark, Nat.add_mul]
  have bounds : TwoJobs video maxTempDiskBytes := by
    unfold tempDiskPermitBytes at covers close two filmed
    exact ⟨by omega, by omega, bounded⟩
  have fits : size ≤ video := by
    unfold tempDiskPermitBytes at sized filmed
    omega
  apply twoJobs_overrun bounds fits
  · rw [one, two, whole, whole, total]
    omega
  · rw [one, two]
    unfold tempDiskPermitBytes at covers apart ⊢
    omega

end TwoJobs

/-! ## Soundness and liveness -/

/-- **The temporary disk reservation.**  Whatever else is configured, the reservations of the jobs
that hold permits stay within `max_temp_disk_bytes` exactly where that is a whole number of
mebibytes or leaves room for one job only.  In one configuration they do exactly where no jobs it
admits, as many as run at once, have permits within the pool and reservations beyond the bytes.  And
no admitted job asks for more than the pool, so each that waits is granted once the others
release. -/
theorem temp_disk_reservation (maxTempDiskBytes : Nat)
    (bounded : maxTempDiskBytes ≤ maxTempDiskTotal) :
    ((∀ settings worker, Configured settings worker →
        settings.worker.maxTempDiskBytes = maxTempDiskBytes →
          ∀ events disk, RunsTempDisk worker (noJobs worker) events disk →
            (disk.held ++ disk.waiting).length ≤ settings.worker.maxConcurrentJobs →
              reservedBytes disk ≤ maxTempDiskBytes) ↔
      tempDiskPermitBytes ∣ maxTempDiskBytes ∨ maxTempDiskBytes ≤ 33 * tempDiskPermitBytes) ∧
    ∀ settings worker, Configured settings worker →
      settings.worker.maxTempDiskBytes = maxTempDiskBytes →
        ((∀ events disk, RunsTempDisk worker (noJobs worker) events disk →
            (disk.held ++ disk.waiting).length ≤ settings.worker.maxConcurrentJobs →
              reservedBytes disk ≤ maxTempDiskBytes) ↔
          ∀ jobs : List (AdmittedJob worker), jobs.length ≤ settings.worker.maxConcurrentJobs →
            weigh jobPermits jobs ≤ totalPermits worker →
              weigh reservation jobs ≤ maxTempDiskBytes) ∧
        tempDiskPermits maxTempDiskBytes = some (totalPermits worker) ∧
          (∀ job : AdmittedJob worker,
            worker.reservedPermits job.expectedSizeBytes = some (jobPermits job) ∧
              jobPermits job ≤ totalPermits worker) ∧
          ∀ events disk, RunsTempDisk worker (noJobs worker) events disk →
            ∀ job ∈ disk.waiting, ∃ more after, RunsTempDisk worker disk more after ∧
              job ∈ after.held := by
  refine ⟨⟨fun sound => ?_, fun condition => ?_⟩, ?_⟩
  · by_contra neither
    rw [not_or, not_le] at neither
    obtain ⟨settings, worker, configured, named, events, disk, run, few, exceeds⟩ :=
      overrun bounded neither.1 neither.2
    exact absurd (sound settings worker configured named events disk run few) (not_le.2 exceeds)
  · rintro settings worker configured rfl events disk run -
    rw [← configured.maxTempDiskBytes] at condition ⊢
    obtain whole | small := condition
    · exact reservedBytes_le_of_whole run whole
    · exact reservedBytes_le_of_small run small
  · rintro settings worker configured rfl
    refine ⟨⟨fun sound jobs few fit => ?_, fun sized events disk run few => ?_⟩, ?_⟩
    · obtain ⟨events, run⟩ := fills jobs fit
      exact sound events ⟨jobs, []⟩ run (by rw [List.append_nil]; exact few)
    · rw [List.length_append] at few
      exact sized disk.held (by omega) (permits_held_le run)
    rw [← configured.maxTempDiskBytes, totalPermits_eq]
    refine ⟨tempDiskPermits_eq (policy_tempDisk worker).2.2, fun job => ?_, ?_⟩
    · refine ⟨?_, (jobPermits_le job).trans (le_of_eq (totalPermits_eq worker))⟩
      rw [jobPermits_eq]
      exact reservedPermits_eq job
    · intro events disk run job waits
      exact grants (fun job _ => jobPermits_le job) waits

/-- At a whole number of mebibytes the reservations stay within it. -/
theorem temp_disk_reservation_sample : tempDiskPermits (34 * tempDiskPermitBytes) = some 34 ∧
    ∀ settings worker, Configured settings worker →
      settings.worker.maxTempDiskBytes = 34 * tempDiskPermitBytes →
        ∀ events disk, RunsTempDisk worker (noJobs worker) events disk →
          (disk.held ++ disk.waiting).length ≤ settings.worker.maxConcurrentJobs →
            reservedBytes disk ≤ 34 * tempDiskPermitBytes :=
  ⟨by decide, (temp_disk_reservation (34 * tempDiskPermitBytes) (by decide)).1.2
    (.inl ⟨34, rfl⟩)⟩

/-- **Two jobs overrun the disk.**  With 33 MiB and a byte, two jobs of 17 MiB run at once. -/
theorem temp_disk_overrun : ∃ settings worker, Configured settings worker ∧
    settings.worker.maxTempDiskBytes = 33 * tempDiskPermitBytes + 1 ∧
    ∃ events disk, RunsTempDisk worker (noJobs worker) events disk ∧
      (disk.held ++ disk.waiting).length ≤ settings.worker.maxConcurrentJobs ∧
      33 * tempDiskPermitBytes + 1 < reservedBytes disk := by
  refine overrun (by decide) ?_ (Nat.lt_succ_self _)
  rintro ⟨permits, same⟩
  unfold tempDiskPermitBytes at same
  omega

end MediaBooster.Processing
