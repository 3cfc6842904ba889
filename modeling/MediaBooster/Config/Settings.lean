/-
# Config.Settings -- the settings the upload path is bounded by

The auth, upload and worker groups of the configuration with their checks.  The other groups of
`Settings::validate` look at fields of their own and are left out.

Nothing compares the part size with the largest file: `batchPolicy_bounds` is all an accepted
configuration says about the batch policy that is made of it.
-/
import MediaBooster.Domain.Batch

namespace MediaBooster.Config

set_option autoImplicit false

open MediaBooster.Domain

/-- Service authentication settings. -/
structure AuthSettings where
  keyId : String
  tenantId : String
  hmacSecret : String
  allowedSkewSeconds : Nat
deriving DecidableEq

/-- The auth group of `Settings::validate`. -/
def AuthSettings.violates (auth : AuthSettings) : Bool :=
  auth.keyId.isEmpty || decide (128 < auth.keyId.utf8ByteSize) || auth.tenantId.isEmpty ||
    decide (64 < auth.tenantId.utf8ByteSize) ||
    !decide (32 ≤ auth.hmacSecret.utf8ByteSize ∧ auth.hmacSecret.utf8ByteSize ≤ 256) ||
    decide (900 < auth.allowedSkewSeconds)

/-- Bounded multi-upload policy settings. -/
structure UploadSettings where
  maxBatchFiles : Nat
  maxBatchBytes : Nat
  maxImageBytes : Nat
  maxVideoBytes : Nat
  multipartThresholdBytes : Nat
  multipartPartSizeBytes : Nat
  maxBrowserConnections : Nat
  maxPartsPerFile : Nat
  maxActiveUploadsGlobal : Nat
  maxActiveUploadsPerTenant : Nat
  maxReservedBytesGlobal : Nat
  maxReservedBytesPerTenant : Nat
deriving DecidableEq

/-- Native worker resource settings. -/
structure WorkerSettings where
  maxConcurrentJobs : Nat
  maxConcurrentHeavyImages : Nat
  maxConcurrentVideos : Nat
  nativeThreadsPerJob : Nat
  imageTimeoutSeconds : Nat
  videoTimeoutSeconds : Nat
  sandboxBinary : String
  tempDirectory : String
  maxTempDiskBytes : Nat
  leaseSeconds : Nat
  heartbeatSeconds : Nat
  pollIntervalMs : Nat
  retryDelaySeconds : Nat
  maxAttempts : Nat
  maxSandboxOutputBytes : Nat
  metricsBindLoopback : Bool
deriving DecidableEq

structure Settings where
  upload : UploadSettings
  worker : WorkerSettings
deriving DecidableEq

/-- `u64::saturating_add`. -/
def saturatingAdd (a b : Nat) : Nat := min (a + b) (2 ^ 64 - 1)

/-- `u64::saturating_mul`. -/
def saturatingMul (a b : Nat) : Nat := min (a * b) (2 ^ 64 - 1)

/-- The refused upload settings. -/
def UploadSettings.violates (upload : UploadSettings) : Bool :=
  decide (upload.maxBatchFiles = 0 ∨ 100 < upload.maxBatchFiles ∨ upload.maxBatchBytes = 0 ∨
    upload.maxImageBytes = 0 ∨ upload.maxVideoBytes = 0 ∨ upload.multipartThresholdBytes = 0 ∨
    upload.multipartPartSizeBytes < 5 * 1024 * 1024 ∨ upload.maxBrowserConnections = 0 ∨
    upload.maxPartsPerFile = 0 ∨ upload.maxActiveUploadsGlobal < upload.maxBatchFiles ∨
    upload.maxActiveUploadsPerTenant < upload.maxBatchFiles ∨
    upload.maxActiveUploadsGlobal < upload.maxActiveUploadsPerTenant ∨
    upload.maxReservedBytesGlobal < upload.maxBatchBytes ∨
    upload.maxReservedBytesPerTenant < upload.maxBatchBytes ∨
    upload.maxReservedBytesGlobal < upload.maxReservedBytesPerTenant ∨
    i64Max < (upload.maxReservedBytesGlobal : Int))

/-- The least temporary disk a worker needs. -/
def minimumTempDiskBytes (upload : UploadSettings) : Nat :=
  saturatingAdd (saturatingAdd (max upload.maxVideoBytes upload.maxImageBytes)
    (saturatingMul upload.maxImageBytes 2)) (16 * 1024 * 1024)

/-- The refused worker settings. -/
def WorkerSettings.violates (worker : WorkerSettings) (upload : UploadSettings) : Bool :=
  decide (worker.maxConcurrentJobs = 0 ∨ 32 < worker.maxConcurrentJobs ∨
    worker.maxConcurrentHeavyImages = 0 ∨
    worker.maxConcurrentJobs < worker.maxConcurrentHeavyImages ∨
    worker.maxConcurrentVideos = 0 ∨ worker.maxConcurrentJobs < worker.maxConcurrentVideos ∨
    worker.nativeThreadsPerJob = 0 ∨ 16 < worker.nativeThreadsPerJob ∨
    worker.imageTimeoutSeconds = 0 ∨ worker.videoTimeoutSeconds = 0 ∨
    worker.heartbeatSeconds = 0 ∨
    worker.leaseSeconds ≤ saturatingMul worker.heartbeatSeconds 2 ∨
    worker.pollIntervalMs = 0 ∨ worker.retryDelaySeconds = 0 ∨ worker.maxAttempts = 0 ∨
    worker.maxSandboxOutputBytes < 1024 ∨ 1048576 < worker.maxSandboxOutputBytes ∨
    worker.metricsBindLoopback = false ∨ worker.sandboxBinary.isEmpty = true ∨
    worker.tempDirectory.isEmpty = true ∨
    worker.maxTempDiskBytes < minimumTempDiskBytes upload ∨
    1024 * 1024 * 1024 * 1024 < worker.maxTempDiskBytes)

/-- The upload and worker groups of `Settings::validate`. -/
def Settings.validate (settings : Settings) : Except String Unit :=
  if settings.upload.violates then
    .error "upload settings violate bounded multi-upload limits"
  else if settings.worker.violates settings.upload then
    .error "worker settings violate concurrency, lease, timeout, or output limits"
  else .ok ()

/-- The batch policy the API makes of the settings. -/
def Settings.batchPolicy (settings : Settings) : UploadBatchPolicy where
  maxFiles := settings.upload.maxBatchFiles
  maxBatchBytes := settings.upload.maxBatchBytes
  maxImageBytes := settings.upload.maxImageBytes
  maxVideoBytes := settings.upload.maxVideoBytes
  multipartThresholdBytes := settings.upload.multipartThresholdBytes
  multipartPartSizeBytes := settings.upload.multipartPartSizeBytes

/-- What acceptance says about the batch policy. -/
theorem batchPolicy_bounds {settings : Settings} (valid : settings.validate = .ok ()) :
    5 * 1024 * 1024 ≤ settings.batchPolicy.multipartPartSizeBytes ∧
      (settings.batchPolicy.maxBatchBytes : Int) ≤ i64Max := by
  have accepted : settings.upload.violates = false := by
    unfold Settings.validate at valid
    split at valid
    · cases valid
    · rename_i accepted
      simpa using accepted
  simp only [UploadSettings.violates, decide_eq_false_iff_not, not_or] at accepted
  obtain ⟨-, -, -, -, -, -, part, -, -, -, -, -, batch, -, -, reserved⟩ := accepted
  constructor
  · show 5 * 1024 * 1024 ≤ settings.upload.multipartPartSizeBytes
    omega
  · show (settings.upload.maxBatchBytes : Int) ≤ i64Max
    omega

end MediaBooster.Config
