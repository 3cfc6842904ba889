/-
# Auth.Request -- verifying a signed request and consuming its nonce

`verify` is the auth crate's check of the timestamp, the fields and the HMAC;
`authenticateRequest` is the API's use of it, followed by the one durable step,
the consumption of the nonce.  The two readings of the server clock it makes are
parameters, and so are the primitives of the crypto crates (`Crypto`).
-/
import MediaBooster.Store.Nonces

namespace MediaBooster.Auth

set_option autoImplicit false

open MediaBooster.Domain MediaBooster.Store MediaBooster.Theory.Transaction

/-! ## Signed requests -/

/-- The primitives of the crypto crates: the decoder of base64url without
padding, HMAC-SHA256 of the bytes of a secret and a payload, and the lower-case
hexadecimal SHA-256 of a body. -/
structure Crypto where
  decodeBase64Url : String → Option (List UInt8)
  hmacSha256 : String → String → List UInt8
  sha256Hex : List UInt8 → String

/-- Inputs covered by the request signature. -/
structure SignedRequest where
  keyId : String
  timestamp : Int
  nonce : String
  method : String
  pathAndQuery : String
  bodySha256 : String
  signature : String
deriving DecidableEq

/-- `SignedRequest::canonical_payload`. -/
def SignedRequest.canonicalPayload (request : SignedRequest) : String :=
  "G7MB-HMAC-SHA256\n" ++ request.keyId ++ "\n" ++ toString request.timestamp ++ "\n" ++
    request.nonce ++ "\n" ++ request.method ++ "\n" ++ request.pathAndQuery ++ "\n" ++
    request.bodySha256

inductive VerificationError
  | staleTimestamp
  | invalidField
  | invalidEncoding
  | invalidSignature
  | invalidKey
deriving DecidableEq

/-- `valid_field`. -/
def validField (request : SignedRequest) : Bool :=
  narrowToken request.keyId 128 &&
    decide (16 ≤ request.nonce.utf8ByteSize) && decide (request.nonce.utf8ByteSize ≤ 128) &&
    allChars isAsciiGraphic request.nonce &&
    !request.method.isEmpty && allChars isAsciiUppercase request.method &&
    request.pathAndQuery.toList.head? == some '/' &&
    decide (request.pathAndQuery.utf8ByteSize ≤ 8192) &&
    allChars isAsciiGraphic request.pathAndQuery &&
    sha256Token request.bodySha256

/-- `verify`. -/
def verify (crypto : Crypto) (request : SignedRequest) (secret : String)
    (nowUnixSeconds allowedSkewSeconds : Int) : Except VerificationError Unit :=
  if allowedSkewSeconds < 0 ∨
      ((nowUnixSeconds - request.timestamp).natAbs : Int) > allowedSkewSeconds then
    .error .staleTimestamp
  else if !validField request then .error .invalidField
  else if ¬(32 ≤ secret.utf8ByteSize ∧ secret.utf8ByteSize ≤ 256) then .error .invalidKey
  else
    match crypto.decodeBase64Url request.signature with
    | none => .error .invalidEncoding
    | some signature =>
        if signature = crypto.hmacSha256 secret request.canonicalPayload then .ok ()
        else .error .invalidSignature

/-- A verified request carries a timestamp inside the window around the clock. -/
theorem verify_window {crypto : Crypto} {request : SignedRequest} {secret : String}
    {now skew : Int} (verified : verify crypto request secret now skew = .ok ()) :
    0 ≤ skew ∧ request.timestamp - skew ≤ now ∧ now ≤ request.timestamp + skew := by
  simp only [verify] at verified
  split at verified
  · cases verified
  · rename_i fresh
    simp only [not_or, not_lt] at fresh
    omega

/-- A request verified at one time is verified at any other inside the window. -/
theorem verify_later {crypto : Crypto} {request : SignedRequest} {secret : String}
    {now later skew : Int} (verified : verify crypto request secret now skew = .ok ())
    (lower : request.timestamp - skew ≤ later) (upper : later ≤ request.timestamp + skew) :
    verify crypto request secret later skew = .ok () := by
  simp only [verify] at verified ⊢
  split at verified
  · cases verified
  · rename_i fresh
    simp only [not_or, not_lt] at fresh
    rw [if_neg (by omega)]
    exact verified

/-! ## Authenticating a request -/

structure ApiFailure where
  status : Nat
  code : String
  message : String
deriving DecidableEq

namespace ApiFailure

def notReady : ApiFailure :=
  ⟨503, "UPLOAD_CONTROL_NOT_READY", "Upload control is not ready."⟩

def invalidAuthField : ApiFailure :=
  ⟨400, "INVALID_AUTH_FIELD", "A signing header is malformed."⟩

def unauthorized : ApiFailure :=
  ⟨401, "AUTHENTICATION_FAILED", "Request authentication failed."⟩

def fromNonce : NonceStoreError → ApiFailure
  | .replay => ⟨409, "NONCE_REPLAY", "Request nonce was already used."⟩
  | .backend _ => notReady

end ApiFailure

/-- `ApiAuth`. -/
structure ApiAuth where
  keyId : String
  tenantId : String
  secret : String
  allowedSkewSeconds : Int

/-- The headers of a request under their lower-case names; a value is given by
its bytes, one character each. -/
abbrev HeaderMap := List (String × String)

/-- `required_header`: the first value of the header, if it is visible ASCII. -/
def requiredHeader (headers : HeaderMap) (name : String) : Except ApiFailure String :=
  match headers.lookup name with
  | none => .error .invalidAuthField
  | some value =>
      if allChars (fun c => c == '\t' || (decide (' ' ≤ c) && decide (c ≤ '~'))) value then .ok value
      else .error .invalidAuthField

/-- `str::parse::<i64>`. -/
def parseI64 (text : String) : Option Int :=
  let digits (chars : List Char) : Option Nat :=
    if chars.isEmpty || !chars.all isAsciiDigit then none
    else some (chars.foldl (fun n c => n * 10 + (c.toNat - '0'.toNat)) 0)
  let value : Option Int :=
    match text.toList with
    | '-' :: chars => (digits chars).map fun n => -(n : Int)
    | '+' :: chars => (digits chars).map fun n => (n : Int)
    | chars => (digits chars).map fun n => (n : Int)
  value.filter fun n => decide (i64Min ≤ n) && decide (n ≤ i64Max)

/-- One HTTP request as the handlers hand it to `authenticate_request`. -/
structure ApiRequest where
  headers : HeaderMap
  body : List UInt8
  method : String
  pathAndQuery : String
deriving DecidableEq

/-- Why a request was not authenticated: a failure, or the panic of a clock sum
past the last instant. -/
inductive Rejection
  | failure (failure : ApiFailure)
  | panicked
deriving DecidableEq

/-- What the API was started with; a part that is missing answers "not ready". -/
structure ApiState where
  auth : Option ApiAuth
  nonceStore : Bool

/-- `authenticate_request`, with the clock read once by the verification and once
by the consumption of the nonce. -/
def authenticateRequest (crypto : Crypto) (state : ApiState) (request : ApiRequest)
    (verifyAt consumeAt : OffsetDateTime) : Call SqliteStore Rejection String := do
  let header (name : String) : Call SqliteStore Rejection String :=
    Call.readOr fun _ => (requiredHeader request.headers name).mapError .failure
  let auth ← Call.okOr state.auth (.failure .notReady)
  Call.ensure state.nonceStore (.failure .notReady)
  let keyId ← header "x-g7mb-key-id"
  Call.ensure (keyId == auth.keyId) (.failure .unauthorized)
  let timestampText ← header "x-g7mb-timestamp"
  let timestamp ← Call.okOr (parseI64 timestampText) (.failure .invalidAuthField)
  let nonce ← header "x-g7mb-nonce"
  let bodySha256 ← header "x-g7mb-content-sha256"
  let signature ← header "x-g7mb-signature"
  Call.ensure (bodySha256 == crypto.sha256Hex request.body) (.failure .unauthorized)
  Call.readOr fun _ =>
    (verify crypto
      { keyId := keyId, timestamp := timestamp, nonce := nonce, method := request.method,
        pathAndQuery := request.pathAndQuery, bodySha256 := bodySha256, signature := signature }
      auth.secret verifyAt.unixTimestamp auth.allowedSkewSeconds).mapError
        fun _ => .failure .unauthorized
  let expiresAt ← Call.okOr (consumeAt.checkedAddSeconds auth.allowedSkewSeconds) .panicked
  Call.mapError (fun error => .failure (.fromNonce error))
    (consume keyId nonce consumeAt expiresAt)
  return auth.tenantId

/-! ## What authentication comes down to -/

/-- The part of authentication that does not depend on the clock or the store:
the headers carry `signed`, under the configured key, for this body. -/
structure Presents (crypto : Crypto) (state : ApiState) (request : ApiRequest) (auth : ApiAuth)
    (signed : SignedRequest) : Prop where
  configured : state.auth = some auth
  durable : state.nonceStore = true
  keyId : requiredHeader request.headers "x-g7mb-key-id" = .ok signed.keyId
  ownKey : signed.keyId = auth.keyId
  timestamp : ∃ text, requiredHeader request.headers "x-g7mb-timestamp" = .ok text ∧
    parseI64 text = some signed.timestamp
  nonce : requiredHeader request.headers "x-g7mb-nonce" = .ok signed.nonce
  bodySha256 : requiredHeader request.headers "x-g7mb-content-sha256" = .ok signed.bodySha256
  signature : requiredHeader request.headers "x-g7mb-signature" = .ok signed.signature
  body : signed.bodySha256 = crypto.sha256Hex request.body
  method : signed.method = request.method
  pathAndQuery : signed.pathAndQuery = request.pathAndQuery

/-- A request is authenticated exactly when what it presents verifies at the first
reading of the clock and its nonce is consumed at the second. -/
theorem authenticateRequest_ok_iff {crypto : Crypto} {state : ApiState} {request : ApiRequest}
    {verifyAt consumeAt : OffsetDateTime} {store store' : SqliteStore} {tenantId : String} :
    authenticateRequest crypto state request verifyAt consumeAt store = (.ok tenantId, store') ↔
      ∃ auth signed expiresAt, Presents crypto state request auth signed ∧
        verify crypto signed auth.secret verifyAt.unixTimestamp auth.allowedSkewSeconds = .ok () ∧
        consumeAt.checkedAddSeconds auth.allowedSkewSeconds = some expiresAt ∧
        consume signed.keyId signed.nonce consumeAt expiresAt store = (.ok (), store') ∧
        auth.tenantId = tenantId := by
  simp only [authenticateRequest, call_bind_eq_ok, call_okOr_eq_ok, call_ensure_eq_ok,
    call_readOr_eq, call_mapError_eq_ok, call_pure_eq, Prod.mk.injEq, except_mapError_eq_ok, beq_iff_eq,
    Except.ok.injEq]
  constructor
  · rintro ⟨auth, _, ⟨configured, rfl⟩, _, _, ⟨durable, rfl⟩, keyId, _, ⟨hasKey, rfl⟩, _, _,
      ⟨ownKey, rfl⟩, text, _, ⟨hasText, rfl⟩, timestamp, _, ⟨parsed, rfl⟩, nonce, _,
      ⟨hasNonce, rfl⟩, bodySha256, _, ⟨hasBody, rfl⟩, signature, _, ⟨hasSignature, rfl⟩, _, _,
      ⟨body, rfl⟩, _, _, ⟨verified, rfl⟩, expiresAt, _, ⟨fits, rfl⟩, _, _, consumed, same, rfl⟩
    exact ⟨auth, _, expiresAt,
      ⟨configured, durable, hasKey, ownKey, ⟨text, hasText, parsed⟩, hasNonce, hasBody,
        hasSignature, body, rfl, rfl⟩, verified, fits, consumed, same⟩
  · rintro ⟨auth, signed, expiresAt, presents, verified, fits, consumed, same⟩
    obtain ⟨text, hasText, parsed⟩ := presents.timestamp
    have whole : signed = ⟨signed.keyId, signed.timestamp, signed.nonce, request.method,
        request.pathAndQuery, signed.bodySha256, signed.signature⟩ := by
      rw [← presents.method, ← presents.pathAndQuery]
    rw [whole] at verified
    exact ⟨auth, store, ⟨presents.configured, rfl⟩, (), store, ⟨presents.durable, rfl⟩,
      signed.keyId, store, ⟨presents.keyId, rfl⟩, (), store, ⟨presents.ownKey, rfl⟩, text, store,
      ⟨hasText, rfl⟩, signed.timestamp, store, ⟨parsed, rfl⟩, signed.nonce, store,
      ⟨presents.nonce, rfl⟩, signed.bodySha256, store, ⟨presents.bodySha256, rfl⟩,
      signed.signature, store, ⟨presents.signature, rfl⟩, (), store, ⟨presents.body, rfl⟩, (),
      store, ⟨verified, rfl⟩, expiresAt, store, ⟨fits, rfl⟩, (), store', consumed, same, rfl⟩

/-- A request that is not authenticated has not changed the store. -/
theorem authenticateRequest_atomic (crypto : Crypto) (state : ApiState) (request : ApiRequest)
    (verifyAt consumeAt : OffsetDateTime) :
    Atomic (authenticateRequest crypto state request verifyAt consumeAt) := by
  refine atomic_bind (moves_okOr _ _) fun auth => ?_
  refine atomic_bind (moves_ensure _ _) fun _ => ?_
  refine atomic_bind (moves_readOr _) fun keyId => ?_
  refine atomic_bind (moves_ensure _ _) fun _ => ?_
  refine atomic_bind (moves_readOr _) fun text => ?_
  refine atomic_bind (moves_okOr _ _) fun timestamp => ?_
  refine atomic_bind (moves_readOr _) fun nonce => ?_
  refine atomic_bind (moves_readOr _) fun bodySha256 => ?_
  refine atomic_bind (moves_readOr _) fun signature => ?_
  refine atomic_bind (moves_ensure _ _) fun _ => ?_
  refine atomic_bind (moves_readOr _) fun _ => ?_
  refine atomic_bind (moves_okOr _ _) fun expiresAt => ?_
  exact atomic_map (atomic_mapError (consume_atomic _ _ _ _))

/-- The key, the nonce and the timestamp a request is signed for. -/
def ApiRequest.credential (request : ApiRequest) : Option (String × String × Int) :=
  match requiredHeader request.headers "x-g7mb-key-id",
      requiredHeader request.headers "x-g7mb-nonce",
      requiredHeader request.headers "x-g7mb-timestamp" with
  | .ok keyId, .ok nonce, .ok text => (parseI64 text).map fun timestamp => (keyId, nonce, timestamp)
  | _, _, _ => none

theorem Presents.credential {crypto : Crypto} {state : ApiState} {request : ApiRequest}
    {auth : ApiAuth} {signed : SignedRequest} (presents : Presents crypto state request auth signed) :
    request.credential = some (signed.keyId, signed.nonce, signed.timestamp) := by
  obtain ⟨text, hasText, parsed⟩ := presents.timestamp
  simp [ApiRequest.credential, presents.keyId, presents.nonce, hasText, parsed]

end MediaBooster.Auth
