/-
# Domain.Batch -- the plan of an upload batch

`UploadBatchPolicy.plan` checks the declared kind and length of every file of a request and
selects one transfer for each.  The files are checked in order while their lengths are added
up, so the first file that breaks a bound decides the error.

`plan_ok` says what an accepted plan is: one transfer per file, and the bounds each file and
the batch keep.
-/
import Mathlib.Algebra.GroupWithZero.Nat
import Mathlib.Data.List.Forall2
import MediaBooster.Domain.Upload

namespace MediaBooster.Domain

set_option autoImplicit false

/-- Untrusted client facts of one file. -/
structure UploadCandidate where
  declaredKind : MediaKind
  byteLen : Nat
deriving DecidableEq

/-- Bounded policy for one batch. -/
structure UploadBatchPolicy where
  maxFiles : Nat
  maxBatchBytes : Nat
  maxImageBytes : Nat
  maxVideoBytes : Nat
  multipartThresholdBytes : Nat
  multipartPartSizeBytes : Nat
deriving DecidableEq

/-- Invalid reservation request. -/
inductive UploadBatchPolicyError
  | empty
  | tooManyFiles
  | emptyFile
  | fileTooLarge
  | batchTooLarge
  | invalidPartSize
deriving DecidableEq

namespace UploadBatchPolicy

variable (policy : UploadBatchPolicy)

/-- The byte cap of a media class. -/
def maxBytes : MediaKind → Nat
  | .image => policy.maxImageBytes
  | .video => policy.maxVideoBytes

/-- The transfer of one accepted file. -/
def transferOf (candidate : UploadCandidate) : UploadTransfer :=
  if candidate.declaredKind = .video ∨ policy.multipartThresholdBytes ≤ candidate.byteLen then
    .multipart policy.multipartPartSizeBytes
  else .singlePut

/-- The loop of `plan`, with the bytes of the files before. -/
def planFrom : Nat → List UploadCandidate → Except UploadBatchPolicyError (List UploadTransfer)
  | _, [] => .ok []
  | total, candidate :: candidates =>
      if candidate.byteLen = 0 then .error .emptyFile
      else if policy.maxBytes candidate.declaredKind < candidate.byteLen then .error .fileTooLarge
      else
        match u64CheckedAdd total candidate.byteLen with
        | none => .error .batchTooLarge
        | some total =>
            if policy.maxBatchBytes < total then .error .batchTooLarge
            else
              match planFrom total candidates with
              | .error e => .error e
              | .ok transfers => .ok (policy.transferOf candidate :: transfers)

/-- `UploadBatchPolicy::plan`. -/
def plan (candidates : List UploadCandidate) :
    Except UploadBatchPolicyError (List UploadTransfer) :=
  if candidates.isEmpty then .error .empty
  else if policy.maxFiles < candidates.length then .error .tooManyFiles
  else if policy.multipartPartSizeBytes < 5 * 1024 * 1024 then .error .invalidPartSize
  else policy.planFrom 0 candidates

variable {policy}

/-- What the loop accepts, file by file. -/
theorem planFrom_ok {total : Nat} {candidates : List UploadCandidate}
    {transfers : List UploadTransfer} (planned : policy.planFrom total candidates = .ok transfers) :
    transfers = candidates.map policy.transferOf ∧
      (∀ candidate ∈ candidates, 0 < candidate.byteLen ∧
        candidate.byteLen ≤ policy.maxBytes candidate.declaredKind) ∧
      (candidates ≠ [] → total + (candidates.map UploadCandidate.byteLen).sum ≤
        policy.maxBatchBytes) := by
  induction candidates generalizing total transfers with
  | nil =>
      cases planned
      exact ⟨rfl, by simp, fun nonempty => absurd rfl nonempty⟩
  | cons candidate candidates ih =>
      rw [planFrom] at planned
      split at planned
      · cases planned
      split at planned
      · cases planned
      rename_i positive within
      split at planned
      · cases planned
      rename_i sum added
      obtain ⟨rfl, -⟩ := u64CheckedAdd_eq_some.1 added
      split at planned
      · cases planned
      rename_i fits
      split at planned
      · cases planned
      rename_i rest following
      cases planned
      obtain ⟨mapped, bounded, summed⟩ := ih following
      refine ⟨by rw [mapped, List.map_cons], ?_, fun _ => ?_⟩
      · intro other member
        rcases List.mem_cons.1 member with rfl | later
        · omega
        · exact bounded other later
      · rw [List.map_cons, List.sum_cons]
        rcases candidates with _ | ⟨next, more⟩
        · simp
          omega
        · have := summed (by simp)
          omega

/-- **What an accepted plan is.** -/
theorem plan_ok {candidates : List UploadCandidate} {transfers : List UploadTransfer}
    (planned : policy.plan candidates = .ok transfers) :
    transfers = candidates.map policy.transferOf ∧
      candidates.length ≤ policy.maxFiles ∧
      5 * 1024 * 1024 ≤ policy.multipartPartSizeBytes ∧
      (∀ candidate ∈ candidates, 0 < candidate.byteLen ∧
        candidate.byteLen ≤ policy.maxBytes candidate.declaredKind) ∧
      (candidates.map UploadCandidate.byteLen).sum ≤ policy.maxBatchBytes := by
  rw [plan] at planned
  split at planned
  · cases planned
  rename_i nonempty
  split at planned
  · cases planned
  split at planned
  · cases planned
  obtain ⟨mapped, bounded, summed⟩ := planFrom_ok planned
  have total := summed (by simpa using nonempty)
  exact ⟨mapped, by omega, by omega, bounded, by omega⟩

end UploadBatchPolicy

end MediaBooster.Domain
