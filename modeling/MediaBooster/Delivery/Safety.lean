/-
# Delivery.Safety -- what a signed URL may be for

A delivery takes the manifest of its upload from the cache, from its own load, or from the load of
another that it waited for; asks the database whether the upload may be delivered right now; picks
the derivative; and has the object store sign its key.  The database moves on between these steps,
and the cache keeps a manifest for as long as it likes.

`DeliveryStep` interleaves any number of deliveries with every operation of the store.  Identifiers
of new uploads are new: an id that was ever an upload's is no other upload's later.

* `Grounded`: a manifest stays true of its upload.  As long as the upload is there it is the
  tenant's, and has every derivative the manifest names.
* `delivery_safe`: whatever is delivered was, at the permission check, a derivative of exactly that
  tenant's upload, ready, with no deletion asked for.
-/
import MediaBooster.Delivery.Manifest
import MediaBooster.Processing.Derivatives

namespace MediaBooster.Delivery

set_option autoImplicit false

open MediaBooster.Config MediaBooster.Domain MediaBooster.Store MediaBooster.Theory.Run
open MediaBooster.Theory.Table MediaBooster.Theory.Transaction

/-! ## One delivery -/

/-- `DerivativeDeliveryError`. -/
inductive DerivativeDeliveryError
  | invalidTenant
  | invalidVariant
  | notFound
  | notReady
  | repository (error : UploadRepositoryError)
  | objectStore
  | untrustedRedirect
deriving DecidableEq

/-- The arguments of `presign`, and of `presign_exact` where a preset is named. -/
structure DeliveryRequest where
  tenantId : String
  uploadId : UploadId
  presetId : Option String
  variant : String
deriving DecidableEq

namespace DeliveryRequest

/-- `ManifestKey::new`. -/
def key (request : DeliveryRequest) : ManifestKey := ⟨request.tenantId, request.uploadId⟩

/-- What is checked before anything is looked up: `valid_preset`, `valid_tenant` and the variant. -/
def check (request : DeliveryRequest) : Except DerivativeDeliveryError Unit :=
  if request.presetId.any fun presetId => !narrowToken presetId 128 then .error .invalidVariant
  else if !narrowToken request.tenantId 64 then .error .invalidTenant
  else if ¬ (request.variant = "master" ∨ request.variant = "thumbnail") then
    .error .invalidVariant
  else .ok ()

end DeliveryRequest

/-- `map_manifest_load_error`. -/
def mapManifestLoadError : ManifestLoadError → DerivativeDeliveryError
  | .notFound => .notFound
  | .notReady => .notReady
  | .repository => .repository (.backend (.text "delivery manifest lookup failed"))

/-- What the answer to `is_delivery_allowed` means. -/
def permission : Except UploadRepositoryError (Option Bool) → Except DerivativeDeliveryError Unit
  | .error error => .error (.repository error)
  | .ok none => .error .notFound
  | .ok (some false) => .error .notReady
  | .ok (some true) => .ok ()

/-- The derivative of the manifest that is asked for. -/
def select (request : DeliveryRequest) (manifest : DerivativeManifest) :
    Except DerivativeDeliveryError StoredDerivative :=
  match manifest.derivative request.variant with
  | none => .error .notFound
  | some derivative =>
      if request.presetId.any fun expected => derivative.presetId != expected then .error .notFound
      else .ok derivative

/-- `PresignedDownload`. -/
structure PresignedDownload where
  url : String
  expiresAt : OffsetDateTime

/-- `DerivativeDelivery`. -/
structure DerivativeDelivery where
  presetId : String
  variant : String
  contentType : String
  byteLen : Nat
  url : String
  expiresAt : OffsetDateTime

section Signing

variable {names : DomainNames} (parse : String → Option (Url names))
  (authorities : List (List Char))

/-- The end of `presign_inner`: what the object store signed is handed out if it leads to one of its
own authorities. -/
def deliver (derivative : StoredDerivative) :
    Option PresignedDownload → Except DerivativeDeliveryError DerivativeDelivery
  | none => .error .objectStore
  | some signed =>
      if trustedRedirect parse signed.url authorities then
        .ok ⟨derivative.presetId, derivative.variant, derivative.contentType, derivative.byteLen,
          signed.url, signed.expiresAt⟩
      else .error .untrustedRedirect

/-! ## Deliveries and the store -/

/-- Where a delivery is. -/
inductive Phase
  | looking
  | loading
  | checking (manifest : DerivativeManifest)
  | signing (derivative : StoredDerivative) (checkedAt : SqliteStore)

/-- A delivery under way. -/
structure Pending where
  request : DeliveryRequest
  phase : Phase

/-- What was handed out: the key that was signed, and the store the permission was read from. -/
structure Delivered where
  request : DeliveryRequest
  delivery : DerivativeDelivery
  objectKey : ObjectKey
  checkedAt : SqliteStore

/-- The store with the ids its uploads ever had, the cache, the manifests that were loaded, the
deliveries under way, and what was handed out. -/
structure Deliveries where
  store : SqliteStore
  seen : List UploadId
  cache : List (ManifestKey × DerivativeManifest)
  loaded : List (ManifestKey × DerivativeManifest)
  pending : List Pending
  delivered : List Delivered

namespace Deliveries

/-- A new service over a migrated database. -/
def initial : Deliveries := ⟨.migrated, [], [], [], [], []⟩

/-- An operation of the store runs. -/
def stored (s : Deliveries) (op : Op) : Deliveries :=
  { s with
    store := (op.run s.store).2
    seen := s.seen ++ (op.run s.store).2.uploads.map fun row => row.id }

/-- `invalidate`. -/
def invalidate (s : Deliveries) (key : ManifestKey) : Deliveries :=
  { s with cache := s.cache.filter fun entry => entry.1 ≠ key }

/-- The load of delivery `place` is answered. -/
def load (s : Deliveries) (place : Nat) (request : DeliveryRequest)
    (answer : Except UploadRepositoryError (Option UploadStatusSnapshot)) : Deliveries :=
  match loadManifest request.key answer with
  | .error _ => { s with pending := s.pending.eraseIdx place }
  | .ok manifest => { s with
      cache := (request.key, manifest) :: s.cache
      loaded := (request.key, manifest) :: s.loaded
      pending := s.pending.set place ⟨request, .checking manifest⟩ }

/-- The permission of delivery `place` is answered. -/
def check (s : Deliveries) (place : Nat) (request : DeliveryRequest) (manifest : DerivativeManifest)
    (answer : Except UploadRepositoryError (Option Bool)) : Deliveries :=
  match permission answer with
  | .error (.repository _) => { s with pending := s.pending.eraseIdx place }
  | .error _ => { s.invalidate request.key with pending := s.pending.eraseIdx place }
  | .ok () =>
      match select request manifest with
      | .error _ => { s with pending := s.pending.eraseIdx place }
      | .ok derivative =>
          { s with pending := s.pending.set place ⟨request, .signing derivative s.store⟩ }

/-- The object store answers delivery `place`. -/
def sign (s : Deliveries) (place : Nat) (request : DeliveryRequest) (derivative : StoredDerivative)
    (checkedAt : SqliteStore) (answer : Option PresignedDownload) : Deliveries :=
  match deliver parse authorities derivative answer with
  | .error _ => { s with pending := s.pending.eraseIdx place }
  | .ok delivery => { s with
      pending := s.pending.eraseIdx place
      delivered := s.delivered ++ [⟨request, delivery, derivative.objectKey, checkedAt⟩] }

end Deliveries

/-- What happens to the deliveries, by the place of the one it happens to. -/
inductive DeliveryEvent
  | store (op : Op) (ok : Bool)
  | asks (request : DeliveryRequest)
  | hits (place : Nat)
  | misses (place : Nat)
  | loads (place : Nat)
  | joins (place : Nat)
  | checks (place : Nat)
  | signs (place : Nat) (answer : Option PresignedDownload)
  | drops (place : Nat)
  | evicts (key : ManifestKey)

/-- One step of a delivery, of the cache or of the store. -/
inductive DeliveryStep : Deliveries → DeliveryEvent → Deliveries → Prop
  | store {s : Deliveries} {op : Op} {ok : Bool} {after : SqliteStore}
      (answers : Answers op s.store ok after)
      (fresh : ∀ row ∈ after.uploads, row.id ∈ s.seen →
        ∃ before ∈ s.store.uploads, before.id = row.id) :
      DeliveryStep s (.store op ok)
        { s with store := after, seen := s.seen ++ after.uploads.map fun row => row.id }
  | asks {s : Deliveries} {request : DeliveryRequest} (valid : request.check = .ok ()) :
      DeliveryStep s (.asks request) { s with pending := s.pending ++ [⟨request, .looking⟩] }
  | hits {s : Deliveries} {place : Nat} {request : DeliveryRequest} {manifest : DerivativeManifest}
      (there : s.pending[place]? = some ⟨request, .looking⟩)
      (cached : (request.key, manifest) ∈ s.cache) :
      DeliveryStep s (.hits place)
        { s with pending := s.pending.set place ⟨request, .checking manifest⟩ }
  | misses {s : Deliveries} {place : Nat} {request : DeliveryRequest}
      (there : s.pending[place]? = some ⟨request, .looking⟩) :
      DeliveryStep s (.misses place) { s with pending := s.pending.set place ⟨request, .loading⟩ }
  | loads {s : Deliveries} {place : Nat} {request : DeliveryRequest}
      {answer : Except UploadRepositoryError (Option UploadStatusSnapshot)} {after : SqliteStore}
      (there : s.pending[place]? = some ⟨request, .loading⟩)
      (replies : Replies (findStatus request.tenantId request.uploadId) s.store answer after) :
      DeliveryStep s (.loads place) (s.load place request answer)
  | joins {s : Deliveries} {place : Nat} {request : DeliveryRequest} {manifest : DerivativeManifest}
      (there : s.pending[place]? = some ⟨request, .loading⟩)
      (shared : (request.key, manifest) ∈ s.loaded) :
      DeliveryStep s (.joins place)
        { s with pending := s.pending.set place ⟨request, .checking manifest⟩ }
  | checks {s : Deliveries} {place : Nat} {request : DeliveryRequest} {manifest : DerivativeManifest}
      {answer : Except UploadRepositoryError (Option Bool)} {after : SqliteStore}
      (there : s.pending[place]? = some ⟨request, .checking manifest⟩)
      (replies : Replies (isDeliveryAllowed request.tenantId request.uploadId) s.store answer
        after) :
      DeliveryStep s (.checks place) (s.check place request manifest answer)
  | signs {s : Deliveries} {place : Nat} {request : DeliveryRequest}
      {derivative : StoredDerivative} {checkedAt : SqliteStore}
      (there : s.pending[place]? = some ⟨request, .signing derivative checkedAt⟩)
      (answer : Option PresignedDownload) :
      DeliveryStep s (.signs place answer)
        (s.sign parse authorities place request derivative checkedAt answer)
  | drops (s : Deliveries) (place : Nat) :
      DeliveryStep s (.drops place) { s with pending := s.pending.eraseIdx place }
  | evicts (s : Deliveries) (key : ManifestKey) : DeliveryStep s (.evicts key) (s.invalidate key)

end Signing

/-! ## Derivatives of uploads that are there -/

/-- The store has an upload of that id. -/
def Alive (store : SqliteStore) (uploadId : UploadId) : Prop :=
  ∃ row ∈ store.uploads, row.id = uploadId

section Live

variable {K : List Kind} {s t : SqliteStore} {op : Op} {ok : Bool}

theorem wrote_alive (wrote : Wrote K s t) (inserts : .insertUpload ∉ K) {uploadId : UploadId}
    (alive : Alive t uploadId) : Alive s uploadId := by
  obtain ⟨after, member, named⟩ := alive
  obtain same | ⟨kind, -⟩ | ⟨-, moved⟩ | ⟨-, hit, -, removed⟩ := wrote.uploads_cases
  · rw [same] at member
    exact ⟨after, member, named⟩
  · exact absurd kind inserts
  · obtain ⟨before, there, evolves⟩ := forall₂_mem_right moved member
    exact ⟨before, there, evolves.id.symm.trans named⟩
  · rw [removed] at member
    exact ⟨after, (mem_deleteWhere.1 member).1, named⟩

/-- A statement that deletes uploads, or one of the other kinds. -/
theorem wrote_deletes (wrote : Wrote K s t) :
    (∃ hit n, SqliteStore.deleteUploads hit s = .ok (n, t)) ∨
      Wrote (K.filter fun kind => kind ≠ .deleteUploads) s t := by
  have keep : ∀ {kind : Kind}, kind ∈ K → kind ≠ .deleteUploads →
      kind ∈ K.filter fun kind => kind ≠ .deleteUploads := by
    intro kind member other
    exact List.mem_filter.2 ⟨member, decide_eq_true other⟩
  cases wrote with
  | deleteUploads kind tombstones ran => exact .inl ⟨_, _, ran⟩
  | insertUpload kind fresh ran => exact .inr (.insertUpload (keep kind (by decide)) fresh ran)
  | updateUploads kind evolves ran =>
      exact .inr (.updateUploads (keep kind (by decide)) evolves ran)
  | insertJob kind queued ran => exact .inr (.insertJob (keep kind (by decide)) queued ran)
  | updateJobs kind ran => exact .inr (.updateJobs (keep kind (by decide)) ran)
  | upsertDerivative kind ran => exact .inr (.upsertDerivative (keep kind (by decide)) ran)
  | insertSitePolicy kind bounded ran =>
      exact .inr (.insertSitePolicy (keep kind (by decide)) bounded ran)
  | nextClaim kind ran => exact .inr (.nextClaim (keep kind (by decide)) ran)
  | upsertTenantQueue kind ran => exact .inr (.upsertTenantQueue (keep kind (by decide)) ran)
  | aside kind same => exact .inr (.aside (keep kind (by decide)) same)

theorem wrote_keeps (wrote : Wrote K s t) (deletes : .deleteUploads ∉ K) {row : DerivativeRow}
    (member : row ∈ s.derivatives) : row ∈ t.derivatives := by
  obtain same | ⟨-, added, -, appended⟩ | ⟨kind, -⟩ := wrote.derivatives_cases
  · rw [same]
    exact member
  · rw [appended]
    exact List.mem_append_left _ member
  · exact absurd kind deletes

/-- A statement takes derivatives away with their upload only. -/
theorem wrote_derivatives (integrity : s.Integrity) (wrote : Wrote K s t) {row : DerivativeRow}
    (member : row ∈ s.derivatives) (alive : Alive t row.uploadId) : row ∈ t.derivatives := by
  rcases wrote_deletes wrote with ⟨hit, n, ran⟩ | other
  · obtain ⟨-, usage, counters, -, rfl⟩ := SqliteStore.deleteUploads_ok ran
    refine mem_deleteWhere.2 ⟨member, Bool.eq_false_iff.2 fun gone => ?_⟩
    obtain ⟨upload, removed, named⟩ := List.any_eq_true.1 gone
    obtain ⟨there, hits⟩ := List.mem_filter.1 removed
    obtain ⟨other, left, same⟩ := alive
    obtain ⟨before, kept⟩ := mem_deleteWhere.1 left
    have one : other = upload := integrity.uploadIds.eq_of_key before there
      (same.trans (beq_iff_eq.1 named).symm)
    rw [one, hits] at kept
    cases kept
  · exact wrote_keeps other (by simp) member

/-- **The derivatives of an upload stay as long as it does.** -/
theorem derivatives_live (answers : Answers op s ok t) (integrity : s.Integrity)
    {row : DerivativeRow} (member : row ∈ s.derivatives) (alive : Alive t row.uploadId) :
    row ∈ t.derivatives := by
  have effect := answers.effect integrity
  by_cases deletes : Kind.deleteUploads ∈ op.kinds
  · -- an operation that deletes uploads inserts none, so the upload was there all along
    have inserts : Kind.insertUpload ∉ op.kinds := by
      cases op <;> simp [Op.kinds] at deletes ⊢
    have kept : t.Integrity ∧ (Alive t row.uploadId → row ∈ t.derivatives) := by
      clear alive answers
      induction effect with
      | refl => exact ⟨integrity, fun _ => member⟩
      | tail _ wrote ih =>
          refine ⟨wrote.integrity ih.1, fun alive => ?_⟩
          exact wrote_derivatives ih.1 wrote (ih.2 (wrote_alive wrote inserts alive)) alive
    exact kept.2 alive
  · exact effect.keeps (P := fun m => row ∈ m.derivatives)
      (fun _ _ wrote there => wrote_keeps wrote deletes there) member

end Live

/-! ## The invariant -/

/-- A manifest is true of its upload for as long as the upload is there. -/
structure Grounded (store : SqliteStore) (seen : List UploadId) (key : ManifestKey)
    (manifest : DerivativeManifest) : Prop where
  seen : key.uploadId ∈ seen
  tenant : ∀ row ∈ store.uploads, row.id = key.uploadId → row.tenantId = key.tenantId
  recorded : Alive store key.uploadId →
    ∀ derivative ∈ manifest.derivatives, Recorded store key.uploadId derivative

/-- The store allows a derivative to be delivered: the upload is the tenant's, ready, and no
deletion is asked for, and the derivative is one of it, of the variant and preset asked for. -/
structure Allowed (store : SqliteStore) (request : DeliveryRequest)
    (derivative : StoredDerivative) : Prop where
  upload : ∃ row ∈ store.uploads, row.tenantId = request.tenantId ∧ row.id = request.uploadId ∧
    row.state = .ready ∧ row.deleteRequestedAt = none
  recorded : Recorded store request.uploadId derivative
  variant : derivative.variant = request.variant
  preset : ∀ presetId, request.presetId = some presetId → derivative.presetId = presetId

/-- What is known of a delivery under way. -/
def Known (store : SqliteStore) (seen : List UploadId) (pending : Pending) : Prop :=
  match pending.phase with
  | .looking | .loading => True
  | .checking manifest => Grounded store seen pending.request.key manifest
  | .signing derivative checkedAt => Allowed checkedAt pending.request derivative

/-- What was handed out is a derivative that the store allowed at the permission check, under its
own key. -/
def Safe (delivered : Delivered) : Prop :=
  ∃ derivative, Allowed delivered.checkedAt delivered.request derivative ∧
    delivered.objectKey = derivative.objectKey ∧
    delivered.delivery.presetId = derivative.presetId ∧
    delivered.delivery.variant = derivative.variant ∧
    delivered.delivery.contentType = derivative.contentType ∧
    delivered.delivery.byteLen = derivative.byteLen

/-- What every run keeps. -/
structure Sound (s : Deliveries) : Prop where
  integrity : s.store.Integrity
  seen : ∀ row ∈ s.store.uploads, row.id ∈ s.seen
  cache : ∀ key manifest, (key, manifest) ∈ s.cache → Grounded s.store s.seen key manifest
  loaded : ∀ key manifest, (key, manifest) ∈ s.loaded → Grounded s.store s.seen key manifest
  pending : ∀ pending ∈ s.pending, Known s.store s.seen pending
  delivered : ∀ delivered ∈ s.delivered, Safe delivered

section Steps

variable {names : DomainNames} {parse : String → Option (Url names)}
  {authorities : List (List Char)} {s after : Deliveries} {event : DeliveryEvent}
  {place : Nat} {request : DeliveryRequest} {manifest : DerivativeManifest}

/-- An operation of the store leaves every manifest true. -/
theorem Grounded.store {store t : SqliteStore} {seen : List UploadId} {key : ManifestKey} {op : Op}
    {ok : Bool} (grounded : Grounded store seen key manifest) (integrity : store.Integrity)
    (answers : Answers op store ok t)
    (fresh : ∀ row ∈ t.uploads, row.id ∈ seen → ∃ before ∈ store.uploads, before.id = row.id) :
    Grounded t (seen ++ t.uploads.map fun row => row.id) key manifest := by
  have earlier : ∀ row ∈ t.uploads, row.id = key.uploadId →
      ∃ before ∈ store.uploads, before.id = row.id := by
    intro row member named
    apply fresh row member
    rw [named]
    exact grounded.seen
  refine ⟨List.mem_append_left _ grounded.seen, ?_, ?_⟩
  · intro row member named
    obtain ⟨before, there, same⟩ := earlier row member named
    have evolves := (answers.advances integrity).moved before there row member same.symm
    have kept : row.tenantId = before.tenantId :=
      congrArg UploadReserved.tenantId evolves.reserved
    rw [kept]
    exact grounded.tenant before there (same.trans named)
  · intro alive derivative member
    obtain ⟨row, there, named⟩ := alive
    obtain ⟨before, old, same⟩ := earlier row there named
    obtain ⟨stored, held, owned, facts⟩ :=
      grounded.recorded ⟨before, old, same.trans named⟩ derivative member
    refine ⟨stored, derivatives_live answers integrity held ?_, owned, facts⟩
    rw [owned]
    exact ⟨row, there, named⟩

/-- A derivative that is picked after the permission is allowed. -/
theorem allowed_of_check {derivative : StoredDerivative} {t : SqliteStore}
    {answer : Except UploadRepositoryError (Option Bool)}
    (grounded : Grounded s.store s.seen request.key manifest)
    (replies : Replies (isDeliveryAllowed request.tenantId request.uploadId) s.store answer t)
    (permitted : permission answer = .ok ()) (selected : select request manifest = .ok derivative) :
    Allowed s.store request derivative := by
  cases replies with
  | refused error => cases permitted
  | ran answered =>
      unfold isDeliveryAllowed at answered
      rw [call_read_eq] at answered
      obtain ⟨rfl, -⟩ := Prod.mk.inj answered
      cases found : s.store.uploads.find? (ownedUpload request.tenantId request.uploadId) with
      | none =>
          rw [found] at permitted
          cases permitted
      | some row =>
          rw [found] at permitted
          have member := List.mem_of_find?_eq_some found
          have owned := List.find?_some found
          simp only [ownedUpload, Bool.and_eq_true, beq_iff_eq] at owned
          have ready : (row.state == .ready && !row.deleteRequestedAt.isSome) = true := by
            cases allowed : row.state == .ready && !row.deleteRequestedAt.isSome with
            | true => rfl
            | false =>
                simp only [Option.map_some, allowed] at permitted
                cases permitted
          simp only [Bool.and_eq_true, beq_iff_eq, Bool.not_eq_true', Option.isSome_eq_false_iff,
            Option.isNone_iff_eq_none] at ready
          have recorded := grounded.recorded ⟨row, member, owned.2⟩
          unfold select at selected
          split at selected
          · cases selected
          · rename_i picked there
            split at selected
            · cases selected
            · rename_i agrees
              cases selected
              have here := List.mem_of_find?_eq_some there
              have variant := List.find?_some there
              refine ⟨⟨row, member, owned.1, owned.2, ready.1, ready.2⟩, recorded _ here,
                beq_iff_eq.1 variant, fun presetId asked => ?_⟩
              rw [asked] at agrees
              simpa using agrees

namespace Sound

theorem initial : Sound Deliveries.initial where
  integrity := migrated_integrity
  seen _ member := by cases member
  cache _ _ member := by cases member
  loaded _ _ member := by cases member
  pending _ member := by cases member
  delivered _ member := by cases member

/-- A delivery goes on, or ends. -/
theorem moved (sound : Sound s) {pending : List Pending}
    (known : ∀ one ∈ pending, one ∈ s.pending ∨ Known s.store s.seen one) :
    Sound { s with pending := pending } where
  integrity := sound.integrity
  seen := sound.seen
  cache := sound.cache
  loaded := sound.loaded
  pending one member := by
    rcases known one member with old | new
    · exact sound.pending one old
    · exact new
  delivered := sound.delivered

theorem dropped (sound : Sound s) (place : Nat) :
    Sound { s with pending := s.pending.eraseIdx place } :=
  sound.moved fun _ member => .inl (List.mem_of_mem_eraseIdx member)

theorem set (sound : Sound s) (place : Nat) (one : Pending) (known : Known s.store s.seen one) :
    Sound { s with pending := s.pending.set place one } := by
  refine sound.moved fun other member => ?_
  rcases List.mem_or_eq_of_mem_set member with old | rfl
  · exact .inl old
  · exact .inr known

theorem invalidate (sound : Sound s) (key : ManifestKey) : Sound (s.invalidate key) where
  integrity := sound.integrity
  seen := sound.seen
  cache other manifest member := sound.cache other manifest (List.mem_filter.1 member).1
  loaded := sound.loaded
  pending := sound.pending
  delivered := sound.delivered

theorem store (sound : Sound s) {op : Op} {ok : Bool} {t : SqliteStore}
    (answers : Answers op s.store ok t)
    (fresh : ∀ row ∈ t.uploads, row.id ∈ s.seen →
      ∃ before ∈ s.store.uploads, before.id = row.id) :
    Sound { s with store := t, seen := s.seen ++ t.uploads.map fun row => row.id } where
  integrity := answers.integrity sound.integrity
  seen row member := List.mem_append_right _ (List.mem_map.2 ⟨row, member, rfl⟩)
  cache key manifest member :=
    (sound.cache key manifest member).store sound.integrity answers fresh
  loaded key manifest member :=
    (sound.loaded key manifest member).store sound.integrity answers fresh
  pending one member := by
    have known := sound.pending one member
    obtain ⟨request, phase⟩ := one
    cases phase with
    | looking | loading => trivial
    | checking manifest =>
        have grounded : Grounded s.store s.seen request.key manifest := known
        exact grounded.store sound.integrity answers fresh
    | signing derivative checkedAt => exact known
  delivered := sound.delivered

/-- A manifest is true when it is loaded. -/
theorem load (sound : Sound s)
    {answer : Except UploadRepositoryError (Option UploadStatusSnapshot)} {t : SqliteStore}
    (replies : Replies (findStatus request.tenantId request.uploadId) s.store answer t) :
    Sound (s.load place request answer) := by
  unfold Deliveries.load
  cases loaded : loadManifest request.key answer with
  | error error => exact sound.dropped place
  | ok manifest =>
      obtain ⟨-, row, member, tenant, named, recorded⟩ := loadManifest_ok replies loaded
      have grounded : Grounded s.store s.seen request.key manifest := by
        refine ⟨?_, fun other there same => ?_, fun _ => recorded⟩
        · rw [← named]
          exact sound.seen row member
        · rw [sound.integrity.uploadIds.eq_of_key there member (same.trans named.symm)]
          exact tenant
      have kept := sound.set place ⟨request, .checking manifest⟩ grounded
      refine { kept with cache := fun key other there => ?_, loaded := fun key other there => ?_ }
      · rcases List.mem_cons.1 there with new | old
        · cases new
          exact grounded
        · exact sound.cache key other old
      · rcases List.mem_cons.1 there with new | old
        · cases new
          exact grounded
        · exact sound.loaded key other old

theorem check (sound : Sound s) {answer : Except UploadRepositoryError (Option Bool)}
    {t : SqliteStore} (there : s.pending[place]? = some ⟨request, .checking manifest⟩)
    (replies : Replies (isDeliveryAllowed request.tenantId request.uploadId) s.store answer t) :
    Sound (s.check place request manifest answer) := by
  have grounded : Grounded s.store s.seen request.key manifest :=
    sound.pending _ (List.mem_of_getElem? there)
  unfold Deliveries.check
  split
  · exact sound.dropped place
  · exact (sound.invalidate request.key).dropped place
  · rename_i permitted
    split
    · exact sound.dropped place
    · rename_i derivative selected
      exact sound.set place _ (allowed_of_check grounded replies permitted selected)

theorem sign (sound : Sound s) {derivative : StoredDerivative} {checkedAt : SqliteStore}
    (there : s.pending[place]? = some ⟨request, .signing derivative checkedAt⟩)
    (answer : Option PresignedDownload) :
    Sound (s.sign parse authorities place request derivative checkedAt answer) := by
  have allowed : Allowed checkedAt request derivative :=
    sound.pending _ (List.mem_of_getElem? there)
  unfold Deliveries.sign
  split
  · exact sound.dropped place
  · rename_i delivery delivers
    refine { sound.dropped place with delivered := fun one member => ?_ }
    rcases List.mem_append.1 member with old | new
    · exact sound.delivered one old
    · rw [List.mem_singleton.1 new]
      unfold deliver at delivers
      split at delivers
      · cases delivers
      · split at delivers
        · cases delivers
          exact ⟨derivative, allowed, rfl, rfl, rfl, rfl, rfl⟩
        · cases delivers

/-- Every step keeps it. -/
theorem step (sound : Sound s) (step : DeliveryStep parse authorities s event after) :
    Sound after := by
  cases step with
  | store answers fresh => exact sound.store answers fresh
  | asks valid =>
      refine sound.moved fun one member => ?_
      rcases List.mem_append.1 member with old | new
      · exact .inl old
      · rw [List.mem_singleton.1 new]
        exact .inr trivial
  | hits there cached =>
      refine sound.set _ _ ?_
      exact sound.cache _ _ cached
  | misses there =>
      refine sound.set _ _ ?_
      trivial
  | loads there replies => exact sound.load replies
  | joins there shared =>
      refine sound.set _ _ ?_
      exact sound.loaded _ _ shared
  | checks there replies => exact sound.check there replies
  | signs there answer => exact sound.sign there answer
  | drops place => exact sound.dropped place
  | evicts key => exact sound.invalidate key

end Sound

/-- **Deliveries are safe.**  In every run, whatever the cache holds and whatever happens to the
uploads meanwhile: what is handed out is signed for the key of a derivative that the upload had at
the final permission check, of the variant and the preset asked for, where the upload was that
tenant's, ready, and no deletion was asked for. -/
theorem delivery_safe {events : List DeliveryEvent}
    (run : Trace (DeliveryStep parse authorities) .initial events s) :
    ∀ delivered ∈ s.delivered, Safe delivered :=
  (run.keeps (fun _ _ _ step sound => Sound.step sound step) Sound.initial).delivered

/-- A delivery nothing stands in the way of. -/
theorem delivers (s : Deliveries) (request : DeliveryRequest) (manifest : DerivativeManifest)
    {derivative : StoredDerivative} {delivery : DerivativeDelivery} {signed : PresignedDownload}
    (idle : s.pending = []) (valid : request.check = .ok ())
    (loaded : loadManifest request.key
      (findStatus request.tenantId request.uploadId s.store).1 = .ok manifest)
    (permitted : permission
      (isDeliveryAllowed request.tenantId request.uploadId s.store).1 = .ok ())
    (selected : select request manifest = .ok derivative)
    (handed : deliver parse authorities derivative (some signed) = .ok delivery) :
    ∃ t, Trace (DeliveryStep parse authorities) s
        [.asks request, .misses 0, .loads 0, .checks 0, .signs 0 (some signed)] t ∧
      t.delivered = s.delivered ++ [⟨request, delivery, derivative.objectKey, s.store⟩] := by
  have asks : DeliveryStep parse authorities s (.asks request)
      { s with pending := [⟨request, .looking⟩] } := by
    have step : DeliveryStep parse authorities s _ _ := .asks valid
    rwa [idle] at step
  have misses : DeliveryStep parse authorities { s with pending := [⟨request, .looking⟩] }
      (.misses 0) { s with pending := [⟨request, .loading⟩] } := .misses rfl
  have loads : DeliveryStep parse authorities { s with pending := [⟨request, .loading⟩] } (.loads 0)
      { s with
        cache := (request.key, manifest) :: s.cache
        loaded := (request.key, manifest) :: s.loaded
        pending := [⟨request, .checking manifest⟩] } := by
    have step := @DeliveryStep.loads names parse authorities
      { s with pending := [⟨request, .loading⟩] } 0 request _ _ rfl (.self _ _)
    rwa [Deliveries.load, loaded] at step
  have checks := @DeliveryStep.checks names parse authorities
    { s with
      cache := (request.key, manifest) :: s.cache
      loaded := (request.key, manifest) :: s.loaded
      pending := [⟨request, .checking manifest⟩] } 0 request manifest _ _ rfl (.self _ _)
  rw [Deliveries.check, permitted] at checks
  simp only [selected] at checks
  have signs := @DeliveryStep.signs names parse authorities
    { s with
      cache := (request.key, manifest) :: s.cache
      loaded := (request.key, manifest) :: s.loaded
      pending := [⟨request, .signing derivative s.store⟩] } 0 request derivative s.store rfl
    (some signed)
  rw [Deliveries.sign, handed] at signs
  exact ⟨_, .cons asks (.cons misses (.cons loads (.cons checks (.single signs)))), rfl⟩

theorem stores {op : Op} (fresh : ∀ row ∈ (op.run s.store).2.uploads, row.id ∈ s.seen →
    ∃ before ∈ s.store.uploads, before.id = row.id) :
    DeliveryStep parse authorities s (.store op (op.run s.store).1) (s.stored op) :=
  .store .ran fresh

end Steps

/-! ## One delivery -/

/-- The sample upload is published with its master and its thumbnail. -/
def publishedSample : Deliveries :=
  (((Deliveries.initial.stored (.saveBatch sampleBatch sampleCapacity)).stored
    sampleConfirmation).stored
    (.startProcessing sampleUploadId "image/png" Processing.sampleSha256 (sampleTime 3))).stored
    (.publishDerivatives sampleUploadId [Processing.sampleMaster, Processing.sampleThumbnail]
      (sampleTime 4))

theorem sample_published : ∃ events,
    Trace (DeliveryStep localParse localAuthorities) .initial events publishedSample := by
  refine ⟨_, .cons (stores ?_) (.cons (stores ?_) (.cons (stores ?_) (.single (stores ?_))))⟩
  all_goals decide +kernel

def sampleRequest : DeliveryRequest := ⟨"g5", sampleUploadId, none, "master"⟩

def storedMaster : StoredDerivative :=
  ⟨"board-default-v1", "master", Processing.sampleMaster.objectKey, "image/jpeg", 10⟩

def sampleManifest : DerivativeManifest :=
  ⟨[storedMaster, { storedMaster with
    variant := "thumbnail", objectKey := Processing.sampleThumbnail.objectKey }]⟩

def sampleSigned : PresignedDownload := ⟨"http://localhost:9000", sampleTime 64⟩

def sampleDelivery : DerivativeDelivery :=
  ⟨"board-default-v1", "master", "image/jpeg", 10, sampleSigned.url, sampleSigned.expiresAt⟩

/-- The master of the sample is delivered, and safely. -/
theorem delivery_safe_sample : ∃ s : Deliveries,
    (∃ delivered ∈ s.delivered, delivered.objectKey = Processing.sampleMaster.objectKey) ∧
      ∀ delivered ∈ s.delivered, Safe delivered := by
  obtain ⟨before, published⟩ := sample_published
  have trusted : trustedRedirect localParse sampleSigned.url localAuthorities = true := by
    decide +kernel
  have handed : deliver localParse localAuthorities storedMaster (some sampleSigned) =
      .ok sampleDelivery := by
    rw [deliver, if_pos trusted]
    rfl
  obtain ⟨s, delivery, shown⟩ := delivers publishedSample sampleRequest sampleManifest rfl
    (by decide) (by decide +kernel) (by decide +kernel) (by decide +kernel) handed
  have last : Delivered.mk sampleRequest sampleDelivery storedMaster.objectKey publishedSample.store
      ∈ s.delivered := by
    rw [shown]
    simp
  exact ⟨s, ⟨_, last, rfl⟩, delivery_safe (published.append delivery)⟩

end MediaBooster.Delivery
