/-
# Auth.Canonical -- what a signature is a signature of

Requests and media URLs are signed by one secret over newline-joined fields.  A payload can be
cut back into its fields, because no field that passes validation contains a newline: the tokens,
the nonce, the method, the paths and the digest are visible ASCII, and a number is written in
digits.  The first field tells the two kinds of message apart.

* `Authenticates.payload`: what authenticates is valid, and its HMAC is the one of its payload.
* `canonical_payload_injective`: equal payloads are payloads of equal messages, and with that an
  HMAC without collisions authenticates one message.
-/
import Mathlib
import MediaBooster.Auth.Replay

namespace MediaBooster.Auth

set_option autoImplicit false

open MediaBooster.Domain

/-! ## Signed media URLs -/

/-- Canonical immutable media URL covered by a short-lived public signature. -/
structure SignedMediaUrl where
  path : String
  expiresAt : Int
  signature : String
deriving DecidableEq

/-- `SignedMediaUrl::canonical_payload`. -/
def SignedMediaUrl.canonicalPayload (media : SignedMediaUrl) : String :=
  "G7MB-MEDIA-HMAC-SHA256\nGET\n" ++ media.path ++ "\n" ++ toString media.expiresAt

inductive MediaUrlVerificationError
  | invalidField
  | expired
  | excessiveLifetime
  | invalidEncoding
  | invalidSignature
  | invalidKey
deriving DecidableEq

/-- `validate_media_url_fields`. -/
def validateMediaUrlFields (media : SignedMediaUrl) : Except MediaUrlVerificationError Unit :=
  if !("/media/v1/".toList.isPrefixOf media.path.toList) ||
      decide (media.path.utf8ByteSize > 2048) || !allChars isAsciiGraphic media.path ||
      decide (media.expiresAt ≤ 0) then .error .invalidField
  else .ok ()

/-- `verify_media_url`. -/
def verifyMediaUrl (crypto : Crypto) (media : SignedMediaUrl) (secret : String)
    (nowUnixSeconds : Int) (maxLifetimeSeconds : Nat) : Except MediaUrlVerificationError Unit := do
  validateMediaUrlFields media
  if media.expiresAt < nowUnixSeconds then throw .expired
  else if (media.expiresAt - nowUnixSeconds).natAbs > maxLifetimeSeconds then
    throw .excessiveLifetime
  else
    match crypto.decodeBase64Url media.signature with
    | none => throw .invalidEncoding
    | some signature =>
        if ¬(32 ≤ secret.utf8ByteSize ∧ secret.utf8ByteSize ≤ 256) then throw .invalidKey
        else if signature = crypto.hmacSha256 secret media.canonicalPayload then pure ()
        else throw .invalidSignature

/-! ## Messages -/

/-- Anything signed under a secret. -/
inductive Message
  | apiRequest (request : SignedRequest)
  | mediaUrl (media : SignedMediaUrl)

namespace Message

/-- The payload a message is signed over. -/
def canonicalPayload : Message → String
  | .apiRequest request => request.canonicalPayload
  | .mediaUrl media => media.canonicalPayload

/-- The message passes the code's own validation of its fields. -/
def Valid : Message → Prop
  | .apiRequest request => validField request = true
  | .mediaUrl media => validateMediaUrlFields media = .ok ()

/-- The signature that comes with a message. -/
def signature : Message → String
  | .apiRequest request => request.signature
  | .mediaUrl media => media.signature

/-- Messages of one kind with equal fields; a signature is not one of the fields it signs. -/
def Same : Message → Message → Prop
  | .apiRequest a, .apiRequest b => a = { b with signature := a.signature }
  | .mediaUrl a, .mediaUrl b => a = { b with signature := a.signature }
  | _, _ => False

/-- The fields of a payload, in their order. -/
def fields : Message → List String
  | .apiRequest request =>
      ["G7MB-HMAC-SHA256", request.keyId, toString request.timestamp, request.nonce,
        request.method, request.pathAndQuery, request.bodySha256]
  | .mediaUrl media => ["G7MB-MEDIA-HMAC-SHA256", "GET", media.path, toString media.expiresAt]

end Message

/-! ## Fields without newlines -/

/-- A text in which no character is a newline. -/
def OneLine (text : String) : Prop := '\n' ∉ text.toList

/-- What a predicate that refuses the newline admits is one line. -/
theorem oneLine_of_allChars {p : Char → Bool} {text : String} (refuses : p '\n' = false)
    (all : allChars p text = true) : OneLine text := by
  intro newline
  have admitted := List.all_eq_true.1 all '\n' newline
  rw [refuses] at admitted
  cases admitted

theorem oneLine_nat (n : Nat) : OneLine n.repr := by
  intro newline
  rw [Nat.toList_repr] at newline
  have digit := Nat.isDigit_of_mem_toDigits (by decide) (by decide) newline
  cases digit

/-- A number is written in digits, after a sign. -/
theorem oneLine_int (n : Int) : OneLine (toString n) := by
  cases n with
  | ofNat n => exact oneLine_nat n
  | negSucc n =>
      intro newline
      rw [show toString (Int.negSucc n) = "-" ++ (n + 1).repr from rfl, String.toList_append,
        List.mem_append] at newline
      obtain sign | digits := newline
      · revert sign
        decide
      · exact oneLine_nat (n + 1) digits

theorem validField_oneLine {request : SignedRequest} (valid : validField request = true) :
    ∀ field ∈ (Message.apiRequest request).fields, OneLine field := by
  simp only [validField, narrowToken, sha256Token, Bool.and_eq_true] at valid
  obtain ⟨⟨⟨⟨⟨⟨⟨⟨⟨⟨-, keyId⟩, -⟩, -⟩, nonce⟩, -⟩, method⟩, -⟩, -⟩, path⟩, -, digest⟩ := valid
  intro field member
  simp only [Message.fields, List.mem_cons, List.not_mem_nil, or_false] at member
  obtain rfl | rfl | rfl | rfl | rfl | rfl | rfl := member
  · unfold OneLine
    decide
  · exact oneLine_of_allChars (by decide) keyId
  · exact oneLine_int _
  · exact oneLine_of_allChars (by decide) nonce
  · exact oneLine_of_allChars (by decide) method
  · exact oneLine_of_allChars (by decide) path
  · exact oneLine_of_allChars (by decide) digest

theorem validateMediaUrlFields_oneLine {media : SignedMediaUrl}
    (valid : validateMediaUrlFields media = .ok ()) :
    ∀ field ∈ (Message.mediaUrl media).fields, OneLine field := by
  have path : allChars isAsciiGraphic media.path = true := by
    unfold validateMediaUrlFields at valid
    split at valid
    · cases valid
    · rename_i passed
      simp only [Bool.or_eq_true, Bool.not_eq_true', not_or, Bool.not_eq_false] at passed
      exact passed.1.2
  intro field member
  simp only [Message.fields, List.mem_cons, List.not_mem_nil, or_false] at member
  obtain rfl | rfl | rfl | rfl := member
  · unfold OneLine
    decide
  · unfold OneLine
    decide
  · exact oneLine_of_allChars (by decide) path
  · exact oneLine_int _

theorem Message.Valid.oneLine {message : Message} (valid : message.Valid) :
    ∀ field ∈ message.fields, OneLine field := by
  cases message with
  | apiRequest request => exact validField_oneLine valid
  | mediaUrl media => exact validateMediaUrlFields_oneLine valid

/-! ## Cutting a payload back into its fields -/

theorem SignedRequest.toList_canonicalPayload (request : SignedRequest) :
    request.canonicalPayload.toList =
      ['\n'].intercalate ["G7MB-HMAC-SHA256".toList, request.keyId.toList,
        (toString request.timestamp).toList, request.nonce.toList, request.method.toList,
        request.pathAndQuery.toList, request.bodySha256.toList] := by
  have head : "G7MB-HMAC-SHA256\n".toList = "G7MB-HMAC-SHA256".toList ++ ['\n'] := rfl
  have newline : "\n".toList = ['\n'] := rfl
  unfold SignedRequest.canonicalPayload
  simp only [String.toList_append, List.intercalate_cons_cons, List.intercalate_singleton,
    List.append_assoc, head, newline]

theorem SignedMediaUrl.toList_canonicalPayload (media : SignedMediaUrl) :
    media.canonicalPayload.toList =
      ['\n'].intercalate ["G7MB-MEDIA-HMAC-SHA256".toList, "GET".toList, media.path.toList,
        (toString media.expiresAt).toList] := by
  have head : "G7MB-MEDIA-HMAC-SHA256\nGET\n".toList =
      "G7MB-MEDIA-HMAC-SHA256".toList ++ ['\n'] ++ "GET".toList ++ ['\n'] := rfl
  have newline : "\n".toList = ['\n'] := rfl
  unfold SignedMediaUrl.canonicalPayload
  simp only [String.toList_append, List.intercalate_cons_cons, List.intercalate_singleton,
    List.append_assoc, head, newline]

/-- A payload is its fields, joined by newlines. -/
theorem toList_canonicalPayload (message : Message) :
    message.canonicalPayload.toList = ['\n'].intercalate (message.fields.map String.toList) := by
  cases message with
  | apiRequest request => exact request.toList_canonicalPayload
  | mediaUrl media => exact media.toList_canonicalPayload

/-- The payload of a valid message, cut at its newlines, is the fields of the message. -/
theorem Message.Valid.splitOn {message : Message} (valid : message.Valid) :
    message.canonicalPayload.toList.splitOn '\n' = message.fields.map String.toList := by
  rw [toList_canonicalPayload]
  apply List.splitOn_intercalate
  · intro line member
    obtain ⟨field, there, rfl⟩ := List.mem_map.1 member
    exact valid.oneLine field there
  · cases message <;> exact List.cons_ne_nil _ _

/-- The fields say which message it is. -/
theorem Message.same_of_fields {a b : Message} (same : a.fields = b.fields) : a.Same b := by
  cases a with
  | apiRequest a =>
      cases b with
      | mediaUrl b =>
          have lengths : 7 = 4 := congrArg List.length same
          omega
      | apiRequest b =>
          simp only [Message.fields, List.cons.injEq, true_and, and_true] at same
          obtain ⟨keyId, timestamp, nonce, method, pathAndQuery, bodySha256⟩ := same
          have instant : a.timestamp = b.timestamp := Int.repr_injective timestamp
          show a = { b with signature := a.signature }
          rw [← keyId, ← instant, ← nonce, ← method, ← pathAndQuery, ← bodySha256]
  | mediaUrl a =>
      cases b with
      | apiRequest b =>
          have lengths : 4 = 7 := congrArg List.length same
          omega
      | mediaUrl b =>
          simp only [Message.fields, List.cons.injEq, true_and, and_true] at same
          obtain ⟨path, expiresAt⟩ := same
          have instant : a.expiresAt = b.expiresAt := Int.repr_injective expiresAt
          show a = { b with signature := a.signature }
          rw [← path, ← instant]

/-- Equal payloads are payloads of equal messages. -/
theorem Message.Valid.same {a b : Message} (validA : a.Valid) (validB : b.Valid)
    (same : a.canonicalPayload = b.canonicalPayload) : a.Same b := by
  apply Message.same_of_fields
  apply List.map_injective_iff.2 fun _ _ => String.toList_inj.1
  rw [← validA.splitOn, ← validB.splitOn, same]

/-! ## Authentication -/

/-- The message verifies under the secret, at some time and within some limits, with the HMAC. -/
inductive Authenticates (crypto : Crypto) (secret : String) (hmac : List UInt8) : Message → Prop
  | apiRequest {request : SignedRequest} {now skew : Int}
      (decoded : crypto.decodeBase64Url request.signature = some hmac)
      (verified : verify crypto request secret now skew = .ok ()) :
      Authenticates crypto secret hmac (.apiRequest request)
  | mediaUrl {media : SignedMediaUrl} {now : Int} {maxLifetime : Nat}
      (decoded : crypto.decodeBase64Url media.signature = some hmac)
      (verified : verifyMediaUrl crypto media secret now maxLifetime = .ok ()) :
      Authenticates crypto secret hmac (.mediaUrl media)

/-- Two payloads with one HMAC. -/
def Collide (crypto : Crypto) (secret : String) (a b : Message) : Prop :=
  a.canonicalPayload ≠ b.canonicalPayload ∧
    crypto.hmacSha256 secret a.canonicalPayload = crypto.hmacSha256 secret b.canonicalPayload

section Authenticates

variable {crypto : Crypto} {secret : String} {hmac : List UInt8}

theorem verify_ok {request : SignedRequest} {now skew : Int}
    (decoded : crypto.decodeBase64Url request.signature = some hmac)
    (verified : verify crypto request secret now skew = .ok ()) :
    validField request = true ∧ hmac = crypto.hmacSha256 secret request.canonicalPayload := by
  simp only [verify] at verified
  split at verified
  · cases verified
  split at verified
  · cases verified
  rename_i valid
  split at verified
  · cases verified
  rw [decoded] at verified
  dsimp only at verified
  split at verified
  · rename_i same
    exact ⟨by simpa using valid, same⟩
  · cases verified

theorem verifyMediaUrl_ok {media : SignedMediaUrl} {now : Int} {maxLifetime : Nat}
    (decoded : crypto.decodeBase64Url media.signature = some hmac)
    (verified : verifyMediaUrl crypto media secret now maxLifetime = .ok ()) :
    validateMediaUrlFields media = .ok () ∧
      hmac = crypto.hmacSha256 secret media.canonicalPayload := by
  unfold verifyMediaUrl at verified
  cases valid : validateMediaUrlFields media with
  | error error =>
      rw [valid] at verified
      cases verified
  | ok passed =>
      rw [valid, decoded] at verified
      refine ⟨rfl, ?_⟩
      change (if _ then _ else if _ then _ else if _ then _ else if _ then _ else _) = _ at verified
      split at verified
      · cases verified
      split at verified
      · cases verified
      split at verified
      · cases verified
      split at verified
      · rename_i same
        exact same
      · cases verified

/-- What authenticates is valid, and its HMAC is the one of its payload. -/
theorem Authenticates.payload {message : Message} (authentic : Authenticates crypto secret hmac message) :
    message.Valid ∧ hmac = crypto.hmacSha256 secret message.canonicalPayload := by
  cases authentic with
  | apiRequest decoded verified => exact verify_ok decoded verified
  | mediaUrl decoded verified => exact verifyMediaUrl_ok decoded verified

end Authenticates

/-- **One payload, one message.**  Valid requests with equal payloads are equal, valid media URLs
with equal payloads are equal, no request has the payload of a media URL, and one HMAC under one
secret authenticates one message, unless two payloads collide. -/
theorem canonical_payload_injective :
    (∀ a b : SignedRequest, validField a = true → validField b = true →
      a.canonicalPayload = b.canonicalPayload → a = { b with signature := a.signature }) ∧
    (∀ a b : SignedMediaUrl, validateMediaUrlFields a = .ok () → validateMediaUrlFields b = .ok () →
      a.canonicalPayload = b.canonicalPayload → a = { b with signature := a.signature }) ∧
    (∀ (request : SignedRequest) (media : SignedMediaUrl), validField request = true →
      validateMediaUrlFields media = .ok () → request.canonicalPayload ≠ media.canonicalPayload) ∧
    ∀ (crypto : Crypto) (secret : String) (hmac : List UInt8) (a b : Message),
      Authenticates crypto secret hmac a → Authenticates crypto secret hmac b →
        a.Same b ∨ Collide crypto secret a b := by
  refine ⟨fun a b validA validB same => ?_, fun a b validA validB same => ?_,
    fun request media valid valid' same => ?_, fun crypto secret hmac a b first second => ?_⟩
  · exact Message.Valid.same (a := .apiRequest a) (b := .apiRequest b) validA validB same
  · exact Message.Valid.same (a := .mediaUrl a) (b := .mediaUrl b) validA validB same
  · exact Message.Valid.same (a := .apiRequest request) (b := .mediaUrl media) valid valid' same
  · obtain ⟨validA, ofA⟩ := first.payload
    obtain ⟨validB, ofB⟩ := second.payload
    by_cases same : a.canonicalPayload = b.canonicalPayload
    · exact .inl (validA.same validB same)
    · exact .inr ⟨same, ofA.symm.trans ofB⟩

/-- The signed sample request. -/
def sampleSigned : SignedRequest where
  keyId := "g5-primary"
  timestamp := 1700000000
  nonce := "0123456789abcdef0123456789abcdef"
  method := "GET"
  pathAndQuery := "/v1/capabilities"
  bodySha256 := "e3b0c44298fc1c149afbf4c8996fb92427ae41e4649b934ca495991b7852b855"
  signature := "HYndTPgzV2MejsinTvxqdDO5Tk9H81PZ6HlM9FGmkKY"

/-- A media URL. -/
def sampleMediaUrl : SignedMediaUrl :=
  ⟨"/media/v1/g5/018f5a0c-7282-7a77-87dd-7a944e3b6f22/board-v1/thumbnail.jpg", 1700000300, ""⟩

/-- The sample request is not a media URL, and its HMAC authenticates it alone. -/
theorem canonical_payload_injective_sample :
    sampleSigned.canonicalPayload ≠ sampleMediaUrl.canonicalPayload ∧
      ((Message.apiRequest sampleSigned).Same (.apiRequest sampleSigned) ∨
        Collide sampleCrypto sampleAuth.secret (.apiRequest sampleSigned)
          (.apiRequest sampleSigned)) := by
  have verified : verify sampleCrypto sampleSigned sampleAuth.secret 1700000000 300 = .ok () := by
    decide +kernel
  have authentic := Authenticates.apiRequest rfl verified
  obtain ⟨-, -, apart, once⟩ := canonical_payload_injective
  exact ⟨apart sampleSigned sampleMediaUrl (by decide +kernel) rfl,
    once sampleCrypto sampleAuth.secret _ _ _ authentic authentic⟩

end MediaBooster.Auth
