/-
# Service.Histories.Policies -- what a publication has done before it writes

The asset a snapshot pins was looked up for the snapshot's tenant and found ready.  A publication
is accepted if its `INSERT` reached a row, or if the `SELECT` after it accepted the row there.
-/
import MediaBooster.Service.Asks
import MediaBooster.Service.Histories

namespace MediaBooster.Service.SitePolicyService

set_option autoImplicit false

open MediaBooster.Domain MediaBooster.Store MediaBooster.Theory.Threads

/-! ## The statements of a publication -/

/-- What the store has answered to the statements of a publication that is accepted. -/
inductive Told (snapshot : SitePolicySnapshot) (past : History) : PublishPolicyOutcome → Prop
  | inserted {createdAt : OffsetDateTime}
      (inserts : (⟨.store (.insertSnapshot snapshot createdAt), .ok 1⟩ : Exchange Answer) ∈ past) :
      Told snapshot past .published
  | compared {createdAt : OffsetDateTime} {inserted : Nat} {outcome : PublishPolicyOutcome}
      (missed : inserted ≠ 1)
      (inserts : (⟨.store (.insertSnapshot snapshot createdAt), .ok inserted⟩ : Exchange Answer) ∈
        past)
      (compares : (⟨.store (.compareSnapshot snapshot), .ok outcome⟩ : Exchange Answer) ∈ past) :
      Told snapshot past outcome

/-- **The statements of a publication**, and what they have been answered at its end. -/
theorem follows_publishSitePolicy {snapshot : SitePolicySnapshot} {past : History}
    {rule : History → Ask → Prop} (reads : rule past .now)
    (inserts : ∀ createdAt,
      rule (past ++ [⟨.now, createdAt⟩]) (.store (.insertSnapshot snapshot createdAt)))
    (compares : ∀ more, rule (past ++ more) (.store (.compareSnapshot snapshot))) :
    (publishSitePolicy snapshot).Follows rule (fun past' result =>
      ∀ outcome, result = .ok outcome → Told snapshot past' outcome) past := by
  unfold publishSitePolicy
  refine follows_now reads fun createdAt => ?_
  refine follows_ran (inserts createdAt) (fun inserted => ?_) fun _ _ failed => by cases failed
  have heard : (⟨.store (.insertSnapshot snapshot createdAt), .ok inserted⟩ : Exchange Answer) ∈
      past ++ [⟨.now, createdAt⟩] ++ [⟨.store (.insertSnapshot snapshot createdAt), .ok inserted⟩] :=
    List.mem_append_right _ (List.mem_singleton_self _)
  split
  · rename_i one
    rintro outcome ⟨⟩
    rw [one] at heard ⊢
    exact .inserted heard
  · rename_i missed
    refine ⟨?_, fun answer => ?_⟩
    · rw [List.append_assoc]
      exact compares _
    · rintro outcome rfl
      exact .compared missed (List.mem_append_left _ heard)
        (List.mem_append_right _ (List.mem_singleton_self _))

/-! ## The asset -/

/-- The asset was looked up for the tenant and found ready. -/
def FoundReady (past : History) (tenantId : String) (uploadId : UploadId) : Prop :=
  ∃ candidate : PolicyAssetCandidate, candidate.uploadId = uploadId ∧ candidate.state = .ready ∧
    (⟨.store (.findPolicyAsset tenantId uploadId), .ok (some candidate)⟩ : Exchange Answer) ∈ past

/-- What a publication has done before it asks. -/
def Rule (past : History) : Ask → Prop
  | .store (.insertSnapshot snapshot _) => ∀ watermark, snapshot.watermark = some watermark →
      FoundReady past snapshot.tenantId watermark.assetUploadId
  | _ => True

/-- An asset that passes the checks is the requested one, and ready. -/
theorem validateAsset_ok {candidate : PolicyAssetCandidate} {requested : RequestedWatermarkPolicy}
    {stored : StoredWatermarkPolicy} (valid : validateAsset candidate requested = .ok stored) :
    candidate.uploadId = requested.assetUploadId ∧ candidate.state = .ready ∧
      stored.assetUploadId = requested.assetUploadId := by
  unfold validateAsset at valid
  split at valid
  · cases valid
  · cases valid
  · split at valid
    · cases valid
    · rename_i sound
      simp only [not_or, not_not] at sound
      cases valid
      exact ⟨sound.1, sound.2.2.1, sound.1⟩

theorem follows_pinWatermark {past : History} {tenantId : String}
    (requested : Option RequestedWatermarkPolicy) :
    (pinWatermark tenantId requested).Follows Rule (fun past' result => ∀ watermark,
      result = .ok (some watermark) → FoundReady past' tenantId watermark.assetUploadId) past := by
  cases requested with
  | none =>
      intro watermark same
      cases same
  | some requested =>
      refine Attempt.follows_ofExcept (fun _ _ => ?_) fun _ _ _ failed => by cases failed
      refine follows_call trivial (fun found => ?_) fun _ _ failed => by cases failed
      refine Attempt.follows_okOr (fun candidate there => ?_) fun _ _ failed => by cases failed
      refine Attempt.follows_ofExcept (fun stored valid => ?_) fun _ _ _ failed => by cases failed
      rintro watermark ⟨⟩
      obtain ⟨named, ready, pinned⟩ := validateAsset_ok valid
      refine ⟨candidate, named.trans pinned.symm, ready, ?_⟩
      rw [there, pinned]
      exact List.mem_append_right _ (List.mem_singleton_self _)

/-- **A publication pins what it found ready.** -/
theorem follows_publish (service : SitePolicyService) (request : PublishSitePolicy)
    (readAt : OffsetDateTime) :
    (service.publish request readAt).Follows Rule (fun _ _ => True) [] := by
  unfold publish
  refine Attempt.follows_ofExcept (fun _ _ => ?_) fun _ _ => trivial
  refine Attempt.follows_bind (follows_pinWatermark request.watermark) ?_ fun _ _ _ => trivial
  intro past watermark found
  refine Attempt.follows_bind (Q := fun _ _ => True) ?_ (fun _ _ _ => trivial) fun _ _ _ => trivial
  refine Attempt.follows_mapError (Attempt.Follows.weaken
    (follows_publishSitePolicy trivial (fun createdAt => ?_) fun _ => trivial) fun _ _ _ => trivial)
  intro pinned named
  obtain ⟨candidate, same, ready, member⟩ := found pinned (congrArg Except.ok named)
  exact ⟨candidate, same, ready, List.mem_append_left _ member⟩

end MediaBooster.Service.SitePolicyService
