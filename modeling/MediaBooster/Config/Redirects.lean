/-
# Config.Redirects -- the storage settings, and the redirects that are trusted

The authorities a signed URL may point to are derived from the storage settings, and compared as
texts with the authority of the URL.  Both sides write a host and a port the same way, so the
comparison is one of hosts and ports (`authorities_mem`), even where an IPv6 host gets brackets
twice.

The rule that plain `http` stays on this machine is written on both sides too, and does not fit:

* neither side takes an IPv6 loopback host for one, for it stands between brackets;
* the settings ask it of the endpoint, a redirect asks it of the host the bucket is put before.

`redirects_match` says for which settings nothing of this matters.
-/
import MediaBooster.Domain.Url

namespace MediaBooster.Config

set_option autoImplicit false

open MediaBooster.Domain

/-! ## Settings -/

inductive StorageProvider
  | r2
  | awsS3
  | lightsail
  | generic
deriving DecidableEq

/-- S3-compatible storage configuration. -/
structure StorageSettings where
  provider : StorageProvider
  endpointUrl : Option String
  region : String
  rawBucket : String
  derivativeBucket : String
  accessKeyId : String
  secretAccessKey : String
  forcePathStyle : Bool
deriving DecidableEq

section Settings

variable {names : DomainNames} (parse : String → Option (Url names))

/-- `parse_storage_endpoint`; `parse` is `Url::parse`. -/
def parseStorageEndpoint (value : String) : Except String (Url names) :=
  match parse value with
  | none => .error "storage endpoint URL is invalid"
  | some url =>
      match url.host with
      | none => .error "storage endpoint URL has no host"
      | some host =>
          let loopback := host == "localhost".toList || host == "::1".toList || ipIsLoopback host
          if url.username ≠ "" ∨ url.password.isSome ∨ url.query.isSome ∨ url.fragment.isSome ∨
              ¬ (url.path = "" ∨ url.path = "/") ∨
              ¬ (url.scheme = "https" ∨ (url.scheme = "http" ∧ loopback)) then
            .error "storage endpoint must be path-free HTTPS or loopback HTTP"
          else .ok url

/-- `str::strip_suffix`. -/
def stripSuffix (suffix text : List Char) : Option (List Char) :=
  if suffix.isSuffixOf text then some (text.take (text.length - suffix.length)) else none

/-- `u8::is_ascii_hexdigit`. -/
def isAsciiHexdigit (c : Char) : Bool := (hexValue c).isSome

/-- `is_canonical_r2_endpoint`. -/
def isCanonicalR2Endpoint (url : Url names) : Bool :=
  match url.host.bind (stripSuffix ".r2.cloudflarestorage.com".toList) with
  | none => false
  | some accountId => url.scheme == "https" && url.port.isNone && accountId.length == 32 &&
      accountId.all isAsciiHexdigit

/-- `valid_region`. -/
def validRegion (value : String) : Bool :=
  !value.isEmpty && decide (value.utf8ByteSize ≤ 128) &&
    allChars (fun c => isAsciiAlphanumeric c || c == '-') value

/-- The settings are those of their provider. -/
def StorageSettings.matchesProvider (storage : StorageSettings) (endpoint : Option (Url names)) :
    Bool :=
  let concreteAwsRegion := storage.region != "auto" && validRegion storage.region
  match storage.provider with
  | .r2 => endpoint.any isCanonicalR2Endpoint && storage.region == "auto" &&
      !storage.forcePathStyle
  | .awsS3 => endpoint.isNone && concreteAwsRegion && !storage.forcePathStyle
  | .lightsail => endpoint.isNone && concreteAwsRegion && !storage.forcePathStyle &&
      storage.rawBucket == storage.derivativeBucket
  | .generic => endpoint.isSome

/-- The endpoint, if there is one. -/
def StorageSettings.endpoint (storage : StorageSettings) : Except String (Option (Url names)) :=
  match storage.endpointUrl with
  | none => .ok none
  | some value => (parseStorageEndpoint parse value).map some

/-- `StorageSettings::validate_provider_contract`. -/
def StorageSettings.validateProviderContract (storage : StorageSettings) : Except String Unit := do
  let endpoint ← storage.endpoint parse
  if storage.matchesProvider endpoint then .ok ()
  else .error "storage settings do not match the declared provider contract"

/-! ## Authorities -/

/-- The text of a host and a port, as `canonical_authority` and `trusted_redirect` write it. -/
def authorityText (host : List Char) (port : Option (Fin 65536)) : List Char :=
  match port with
  | some port =>
      if ':' ∈ host then '[' :: (Host.lowered host ++ [']']) ++ ':' :: decimal port
      else Host.lowered host ++ ':' :: decimal port
  | none => Host.lowered host

/-- `canonical_authority`. -/
def canonicalAuthority (url : Url names) : Except String (List Char) :=
  match url.host with
  | none => .error "storage endpoint URL has no host"
  | some host => .ok (authorityText host url.port)

/-- The authority of the bucket's own host. -/
def virtualAuthority (bucket host : List Char) (port : Option (Fin 65536)) : List Char :=
  match port with
  | some port => bucket ++ '.' :: host ++ ':' :: decimal port
  | none => bucket ++ '.' :: host

/-- The regional host of the AWS providers. -/
def regionalHost (region : String) : List Char :=
  "s3.".toList ++ region.toList ++ ".amazonaws.com".toList

/-- A character of a derived authority. -/
def isAuthorityChar (c : Char) : Bool :=
  isAsciiLowercase c || isAsciiDigit c || c == '.' || c == '-' || c == ':' || c == '[' || c == ']'

/-- The endpoint of a custom provider. -/
def StorageSettings.customEndpoint (storage : StorageSettings) : Except String (Url names) :=
  match storage.endpointUrl with
  | none => .error "custom storage provider has no redirect authority"
  | some value => parseStorageEndpoint parse value

/-- The authorities of an endpoint. -/
def StorageSettings.endpointAuthorities (storage : StorageSettings) (endpoint : Url names) :
    Except String (List (List Char)) := do
  let endpointAuthority ← canonicalAuthority endpoint
  if storage.forcePathStyle then .ok [endpointAuthority]
  else
    match endpoint.host with
    | none => .error "storage endpoint URL has no host"
    | some host => .ok [endpointAuthority,
        virtualAuthority storage.derivativeBucket.toList host endpoint.port]

/-- The authorities before they are checked. -/
def StorageSettings.authorities (storage : StorageSettings) : Except String (List (List Char)) :=
  match storage.provider with
  | .r2 | .generic => do
      let endpoint ← storage.customEndpoint parse
      storage.endpointAuthorities endpoint
  | .awsS3 | .lightsail => .ok
      [storage.derivativeBucket.toList ++ '.' :: regionalHost storage.region,
        regionalHost storage.region]

/-- `derive_redirect_authorities`.  A text with a character outside ASCII is refused, so its
length may be counted in characters. -/
def StorageSettings.deriveRedirectAuthorities (storage : StorageSettings) :
    Except String (List (List Char)) := do
  let authorities ← storage.authorities parse
  if authorities.isEmpty ∨ 4 < authorities.length ∨ authorities.any (fun authority =>
      authority.isEmpty || decide (512 < authority.length) || !authority.all isAuthorityChar) then
    .error "derived storage redirect authority is invalid"
  else .ok authorities

/-- The limits on the texts of the settings. -/
def StorageSettings.withinLimits (storage : StorageSettings) : Except String Unit :=
  if storage.rawBucket.isEmpty ∨ 255 < storage.rawBucket.utf8ByteSize ∨
      storage.derivativeBucket.isEmpty ∨ 255 < storage.derivativeBucket.utf8ByteSize ∨
      storage.region.isEmpty ∨ 128 < storage.region.utf8ByteSize ∨
      storage.accessKeyId.isEmpty ∨ 256 < storage.accessKeyId.utf8ByteSize ∨
      storage.secretAccessKey.isEmpty ∨ 1024 < storage.secretAccessKey.utf8ByteSize then
    .error "storage settings violate bucket, region, or credential limits"
  else .ok ()

/-- The storage part of `Settings::validate`. -/
def StorageSettings.validate (storage : StorageSettings) : Except String Unit := do
  storage.withinLimits
  storage.validateProviderContract parse
  let _ ← storage.deriveRedirectAuthorities parse
  return ()

/-- What `trusted_redirect` checks of a parsed URL. -/
def trustedUrl (url : Url names) (allowedAuthorities : List (List Char)) : Bool :=
  let loopback := url.host.any fun host =>
    Host.lowered host == "localhost".toList || ipIsLoopback host
  if url.username ≠ "" ∨ url.password.isSome ∨ url.fragment.isSome ∨
      ¬ (url.scheme = "https" ∨ (url.scheme = "http" ∧ loopback)) then false
  else
    match url.host with
    | none => false
    | some host => allowedAuthorities.contains (authorityText host url.port)

/-- `trusted_redirect`. -/
def trustedRedirect (value : String) (allowedAuthorities : List (List Char)) : Bool :=
  match parse value with
  | none => false
  | some url => trustedUrl url allowedAuthorities

end Settings

/-! ## Authorities as texts -/

section Texts

variable {names : DomainNames} {front back text : List Char} {p q : Fin 65536}

theorem decimal_ends (n : Nat) :
    ∃ before digit, decimal n = before ++ [digit] ∧ isAsciiDigit digit = true := by
  have written := (List.dropLast_append_getLast (decimal_ne_nil n)).symm
  exact ⟨_, _, written, decimal_digits (List.getLast_mem (decimal_ne_nil n))⟩

/-- A text with a port is told apart by what stands before it, and the port. -/
theorem port_inj : front ++ ':' :: decimal p = back ++ ':' :: decimal q ↔ front = back ∧ p = q := by
  constructor
  · intro same
    have colonless : ∀ n, ':' ∉ (decimal n).reverse := fun n member =>
      not_mem_decimal (by decide) (List.mem_reverse.1 member)
    have turned := congrArg List.reverse same
    simp only [List.reverse_append, List.reverse_cons, List.append_assoc,
      List.singleton_append] at turned
    obtain ⟨ports, fronts⟩ := heads_eq (colonless _) (colonless _) turned
    exact ⟨List.reverse_injective fronts, Fin.ext (decimal_inj (List.reverse_injective ports))⟩
  · rintro ⟨rfl, rfl⟩
    rfl

/-- A text with a port does not end with a name. -/
theorem port_ne_name (colonless : ':' ∉ back) :
    front ++ ':' :: decimal p ≠ text ++ '.' :: back := by
  intro same
  obtain ⟨more, -, rest⟩ | ⟨more, -, rest⟩ := List.append_eq_append_iff.1 same
  · -- the colon stands before the dot, and the dot among the digits
    cases more with
    | nil => exact absurd (List.cons.inj rest).1 (by decide)
    | cons c more =>
        have dot : '.' ∈ decimal p.val := by
          rw [(List.cons.inj rest).2]
          simp
        exact not_mem_decimal (by decide) dot
  · have colon : ':' ∈ '.' :: back := by
      rw [rest]
      simp
    rw [List.mem_cons] at colon
    rcases colon with colon | colon
    · exact absurd colon (by decide)
    · exact colonless colon

/-- A text with a port does not end with a bracket. -/
theorem port_ne_bracket : front ++ ':' :: decimal p ≠ back ++ [']'] := by
  intro same
  obtain ⟨before, digit, written, plain⟩ := decimal_ends p.val
  have split : (front ++ ':' :: before) ++ [digit] = back ++ [']'] := by
    rw [← same, written]
    simp
  have last := List.singleton_inj.1 (List.append_inj' split rfl).2
  rw [last] at plain
  exact absurd plain (by decide)

/-- The host in an authority with a port. -/
def bracketed (host : Host names) : List Char :=
  if ':' ∈ host.text then '[' :: (host.text ++ [']']) else host.text

theorem authorityText_some (host : Host names) (port : Fin 65536) :
    authorityText host.text (some port) = bracketed host ++ ':' :: decimal port := by
  unfold authorityText bracketed
  dsimp only
  rw [host.text_lower]
  split <;> rfl

theorem authorityText_none (host : Host names) : authorityText host.text none = host.text :=
  host.text_lower

/-- Brackets do not make one host of two. -/
theorem bracketed_inj {a b : Host names} : bracketed a = bracketed b ↔ a.text = b.text := by
  have apart : ∀ {a b : Host names}, a.IsIpv6 → ¬ b.IsIpv6 → bracketed a ≠ b.text := by
    intro a b six other same
    apply other
    rw [← Host.bracket_head, ← same, bracketed, if_pos (Host.colon_mem.2 six)]
    rfl
  by_cases six : a.IsIpv6 <;> by_cases six' : b.IsIpv6
  · rw [bracketed, bracketed, if_pos (Host.colon_mem.2 six), if_pos (Host.colon_mem.2 six')]
    simp
  · refine iff_of_false ?_ fun same => six' (Host.colon_mem.1 (same ▸ Host.colon_mem.2 six))
    have plain : bracketed b = b.text := if_neg fun colon => six' (Host.colon_mem.1 colon)
    rw [plain]
    exact apart six six'
  · refine iff_of_false ?_ fun same => six (Host.colon_mem.1 (same ▸ Host.colon_mem.2 six'))
    have plain : bracketed a = a.text := if_neg fun colon => six (Host.colon_mem.1 colon)
    rw [plain]
    exact fun same => apart six' six same.symm
  · rw [bracketed, bracketed, if_neg fun colon => six (Host.colon_mem.1 colon),
      if_neg fun colon => six' (Host.colon_mem.1 colon)]

/-- A host that is written with a dot is the same with brackets. -/
theorem bracketed_dotted {host : Host names} (dotted : '.' ∈ text) :
    bracketed host = text ↔ host.text = text := by
  unfold bracketed
  split
  · rename_i colon
    have dotless := (Host.colon_mem.1 colon).dotless
    refine iff_of_false ?_ fun same => dotless (same ▸ dotted)
    rintro rfl
    simp only [List.mem_cons, List.mem_append, List.not_mem_nil, or_false] at dotted
    rcases dotted with dot | dot | dot
    · exact absurd dot (by decide)
    · exact dotless dot
    · exact absurd dot (by decide)
  · rfl

/-- **An authority without a port is a host.** -/
theorem authorityText_name {host : Host names} {port : Option (Fin 65536)}
    (colonless : ':' ∉ back) : authorityText host.text port = front ++ '.' :: back ↔
      host.text = front ++ '.' :: back ∧ port = none := by
  cases port with
  | none => simp [authorityText_none]
  | some port =>
      rw [authorityText_some]
      exact iff_of_false (port_ne_name colonless) fun both => by cases both.2

/-- **The endpoint's authority is the endpoint's host and port.** -/
theorem authorityText_endpoint {host endpoint : Host names} {port own : Option (Fin 65536)} :
    authorityText host.text port = authorityText endpoint.text own ↔
      host.text = endpoint.text ∧ port = own := by
  have apart : ∀ (a b : Host names) (port : Fin 65536),
      bracketed a ++ ':' :: decimal port ≠ b.text := by
    intro a b port same
    have six : b.IsIpv6 := by
      rw [← Host.colon_mem, ← same]
      simp
    obtain ⟨front, ends⟩ := six.ends
    rw [ends] at same
    exact port_ne_bracket same
  cases port with
  | none =>
      cases own with
      | none => simp [authorityText_none]
      | some own =>
          rw [authorityText_none, authorityText_some]
          exact iff_of_false (Ne.symm (apart _ _ _)) fun both => by cases both.2
  | some port =>
      cases own with
      | none =>
          rw [authorityText_none, authorityText_some]
          exact iff_of_false (apart _ _ _) fun both => by cases both.2
      | some own =>
          rw [authorityText_some, authorityText_some, port_inj, bracketed_inj, Option.some.injEq]

/-- **The virtual authority is the bucket's host and the endpoint's port.** -/
theorem authorityText_virtual {host endpoint : Host names} {port own : Option (Fin 65536)}
    {bucket : List Char} : authorityText host.text port = virtualAuthority bucket endpoint.text own ↔
      host.text = bucket ++ '.' :: endpoint.text ∧ port = own := by
  cases own with
  | some own =>
      unfold virtualAuthority
      cases port with
      | none =>
          rw [authorityText_none]
          refine iff_of_false (fun same => ?_) fun both => by cases both.2
          have six : host.IsIpv6 := by
            rw [← Host.colon_mem, same]
            simp
          exact six.dotless (by rw [same]; simp)
      | some port =>
          rw [authorityText_some, port_inj, bracketed_dotted (by simp), Option.some.injEq]
  | none =>
      unfold virtualAuthority
      by_cases six : endpoint.IsIpv6
      · obtain ⟨front, ends⟩ := six.ends
        cases port with
        | none => simp [authorityText_none]
        | some port =>
            rw [authorityText_some]
            refine iff_of_false (fun same => ?_) fun both => by cases both.2
            rw [ends] at same
            have bracket : bucket ++ '.' :: front ++ [']'] = bucket ++ '.' :: (front ++ [']']) := by
              simp
            exact port_ne_bracket (same.trans bracket.symm)
      · exact authorityText_name fun colon => six (Host.colon_mem.1 colon)

end Texts

/-! ## Accepted settings -/

section Accepted

variable {names : DomainNames} {parse : String → Option (Url names)} {storage : StorageSettings}
variable {authorities : List (List Char)} {endpoint : Url names} {host : Host names}

/-- The check of the endpoint's host finds what the check of a redirect finds. -/
theorem seemsLoopback_text (host : Host names) :
    (host.text == "localhost".toList || host.text == "::1".toList || ipIsLoopback host.text) =
      Host.seemsLoopback host.text := by
  have other : (host.text == "::1".toList) = false := by
    rw [beq_eq_false_iff_ne]
    intro same
    have six : host.IsIpv6 := by
      rw [← Host.colon_mem, same]
      decide
    have bracket := Host.bracket_head.2 six
    rw [same] at bracket
    exact absurd bracket (by decide)
  rw [other, Bool.or_false]
  rfl

/-- The endpoint of the settings, as it was parsed. -/
structure Endpoint (parse : String → Option (Url names)) (storage : StorageSettings)
    (endpoint : Url names) (host : Host names) : Prop where
  parsed : storage.endpointUrl.bind parse = some endpoint
  hosted : endpoint.host = some host.text
  username : endpoint.username = ""
  password : endpoint.password = none
  fragment : endpoint.fragment = none
  scheme : endpoint.scheme = "https" ∨
    (endpoint.scheme = "http" ∧ Host.seemsLoopback host.text = true)

theorem parseStorageEndpoint_ok {value : String} (given : storage.endpointUrl = some value)
    (valid : parseStorageEndpoint parse value = .ok endpoint) :
    ∃ host : Host names, Endpoint parse storage endpoint host := by
  unfold parseStorageEndpoint at valid
  split at valid
  · cases valid
  · rename_i url parsed
    split at valid
    · cases valid
    · rename_i text there
      dsimp only at valid
      split at valid
      · cases valid
      · rename_i sound
        obtain ⟨username, sound⟩ := not_or.1 sound
        obtain ⟨password, sound⟩ := not_or.1 sound
        obtain ⟨-, sound⟩ := not_or.1 sound
        obtain ⟨fragment, sound⟩ := not_or.1 sound
        have scheme := not_not.1 (not_or.1 sound).2
        cases valid
        have web : endpoint.scheme = "http" ∨ endpoint.scheme = "https" :=
          scheme.elim .inr fun plain => .inl plain.1
        obtain ⟨host, same⟩ := endpoint.hosted web
        rw [there] at same
        obtain rfl := Option.some.inj same
        rw [seemsLoopback_text] at scheme
        exact ⟨host, by rw [given]; exact parsed, there, not_not.1 username,
          Option.not_isSome_iff_eq_none.1 password, Option.not_isSome_iff_eq_none.1 fragment, scheme⟩

/-- What the settings of a custom provider derive. -/
def customAuthorities (storage : StorageSettings) (endpoint : Url names) (host : Host names) :
    List (List Char) :=
  authorityText host.text endpoint.port ::
    if storage.forcePathStyle then []
    else [virtualAuthority storage.derivativeBucket.toList host.text endpoint.port]

/-- What the settings of an AWS provider derive. -/
def awsAuthorities (storage : StorageSettings) : List (List Char) :=
  [storage.derivativeBucket.toList ++ '.' :: regionalHost storage.region,
    regionalHost storage.region]

/-- The providers with an endpoint of their own. -/
def StorageProvider.custom : StorageProvider → Bool
  | .r2 | .generic => true
  | .awsS3 | .lightsail => false

/-- Settings that are accepted, with what they derive. -/
inductive Accepted (parse : String → Option (Url names)) (storage : StorageSettings) :
    List (List Char) → Prop
  | custom {endpoint : Url names} {host : Host names} (custom : storage.provider.custom = true)
      (own : Endpoint parse storage endpoint host) :
      Accepted parse storage (customAuthorities storage endpoint host)
  | aws (regional : storage.provider.custom = false) (none : storage.endpointUrl = none)
      (region : validRegion storage.region = true) : Accepted parse storage (awsAuthorities storage)

theorem derive_eq (derived : storage.deriveRedirectAuthorities parse = .ok authorities) :
    storage.authorities parse = .ok authorities := by
  unfold StorageSettings.deriveRedirectAuthorities at derived
  cases made : storage.authorities parse with
  | error message =>
      rw [made] at derived
      cases derived
  | ok unchecked =>
      rw [made] at derived
      change (ite _ _ _ : Except String _) = _ at derived
      split at derived
      · cases derived
      · cases derived
        rfl

theorem except_bind_ok {α β : Type} {first : Except String α} {next : α → Except String β} {b : β}
    (ran : (first >>= next) = .ok b) : ∃ a, first = .ok a ∧ next a = .ok b := by
  cases first with
  | error message => cases ran
  | ok a => exact ⟨a, rfl, ran⟩

theorem matchesProvider_aws {endpoint : Option (Url names)}
    (matching : storage.matchesProvider endpoint = true)
    (regional : storage.provider.custom = false) :
    endpoint = none ∧ validRegion storage.region = true := by
  unfold StorageSettings.matchesProvider at matching
  cases kind : storage.provider with
  | r2 =>
      rw [kind] at regional
      cases regional
  | generic =>
      rw [kind] at regional
      cases regional
  | awsS3 =>
      simp only [kind, Bool.and_eq_true, Option.isNone_iff_eq_none] at matching
      exact ⟨matching.1.1, matching.1.2.2⟩
  | lightsail =>
      simp only [kind, Bool.and_eq_true, Option.isNone_iff_eq_none] at matching
      exact ⟨matching.1.1.1, matching.1.1.2.2⟩

/-- Settings of an AWS provider have no endpoint and a region. -/
theorem validateProviderContract_ok (valid : storage.validateProviderContract parse = .ok ())
    (regional : storage.provider.custom = false) :
    storage.endpointUrl = none ∧ validRegion storage.region = true := by
  unfold StorageSettings.validateProviderContract at valid
  obtain ⟨endpoint, read, valid⟩ := except_bind_ok valid
  split at valid
  · rename_i matching
    obtain ⟨rfl, region⟩ := matchesProvider_aws matching regional
    refine ⟨?_, region⟩
    unfold StorageSettings.endpoint at read
    split at read
    · assumption
    · rename_i value given
      cases parsed : parseStorageEndpoint parse value with
      | error message =>
          rw [parsed] at read
          cases read
      | ok endpoint =>
          rw [parsed] at read
          cases read
  · cases valid

/-- **What accepted settings derive.** -/
theorem validate_ok (valid : storage.validate parse = .ok ()) :
    ∃ authorities, storage.deriveRedirectAuthorities parse = .ok authorities ∧
      Accepted parse storage authorities := by
  unfold StorageSettings.validate at valid
  obtain ⟨_, -, valid⟩ := except_bind_ok valid
  obtain ⟨_, contract, valid⟩ := except_bind_ok valid
  obtain ⟨authorities, derived, -⟩ := except_bind_ok valid
  refine ⟨authorities, derived, ?_⟩
  have made := derive_eq derived
  cases custom : storage.provider.custom with
  | false =>
      obtain ⟨none, region⟩ := validateProviderContract_ok contract custom
      have same : storage.authorities parse = .ok (awsAuthorities storage) := by
        unfold StorageSettings.authorities
        cases kind : storage.provider <;> rw [kind] at custom <;>
          first | rfl | exact absurd custom (by decide)
      rw [same] at made
      cases made
      exact .aws custom none region
  | true =>
      have same : storage.authorities parse =
          storage.customEndpoint parse >>= storage.endpointAuthorities := by
        unfold StorageSettings.authorities
        cases kind : storage.provider <;> rw [kind] at custom <;>
          first | rfl | exact absurd custom (by decide)
      rw [same] at made
      obtain ⟨endpoint, read, made⟩ := except_bind_ok made
      unfold StorageSettings.customEndpoint at read
      split at read
      · cases read
      · rename_i value given
        obtain ⟨host, own⟩ := parseStorageEndpoint_ok given read
        have same : storage.endpointAuthorities endpoint =
            .ok (customAuthorities storage endpoint host) := by
          unfold StorageSettings.endpointAuthorities canonicalAuthority customAuthorities
          rw [own.hosted]
          show ite _ _ _ = _
          split <;> rfl
        rw [same] at made
        cases made
        exact .custom custom own

end Accepted

/-! ## What a redirect may point to -/

section Redirects

variable {names : DomainNames} {parse : String → Option (Url names)} {storage : StorageSettings}
variable {authorities : List (List Char)} {url : Url names} {host : Host names}
variable {port : Option (Fin 65536)}

/-- A host and a port that deliveries of the settings go to: the endpoint's or the regional one,
and, where the bucket is addressed by its host, the bucket's subdomain of it. -/
inductive IsTarget (parse : String → Option (Url names)) (storage : StorageSettings) :
    List Char → Option (Fin 65536) → Prop
  | endpoint {endpoint : Url names} {host : List Char} (custom : storage.provider.custom = true)
      (parsed : storage.endpointUrl.bind parse = some endpoint)
      (hosted : endpoint.host = some host) : IsTarget parse storage host endpoint.port
  | subdomain {endpoint : Url names} {host : List Char} (custom : storage.provider.custom = true)
      (parsed : storage.endpointUrl.bind parse = some endpoint)
      (hosted : endpoint.host = some host) (virtual : storage.forcePathStyle = false) :
      IsTarget parse storage (storage.derivativeBucket.toList ++ '.' :: host) endpoint.port
  | regional (aws : storage.provider.custom = false) :
      IsTarget parse storage (regionalHost storage.region) none
  | regionalSubdomain (aws : storage.provider.custom = false) :
      IsTarget parse storage
        (storage.derivativeBucket.toList ++ '.' :: regionalHost storage.region) none

/-- A redirect that is to be trusted. -/
structure MayRedirect (parse : String → Option (Url names)) (storage : StorageSettings)
    (url : Url names) : Prop where
  username : url.username = ""
  password : url.password = none
  fragment : url.fragment = none
  scheme : url.scheme = "https" ∨
    (url.scheme = "http" ∧ ∃ host : Host names, url.host = some host.text ∧ host.IsLoopback)
  target : ∃ host, url.host = some host ∧ IsTarget parse storage host url.port

/-- A host and a port between the slashes of a URL. -/
def writtenAuthority (host : List Char) : Option (Fin 65536) → List Char
  | some port => host ++ ':' :: decimal port
  | none => host

/-- The scheme of the endpoint; that of the AWS providers is `https`. -/
def ownScheme (parse : String → Option (Url names)) (storage : StorageSettings) : String :=
  (storage.endpointUrl.bind parse).elim "https" Url.scheme

/-- A URL formed with the own scheme and one of the authorities. -/
structure Formed (parse : String → Option (Url names)) (storage : StorageSettings)
    (authorities : List (List Char)) (url : Url names) : Prop where
  scheme : url.scheme = ownScheme parse storage
  username : url.username = ""
  password : url.password = none
  fragment : url.fragment = none
  authority : ∃ host, url.host = some host ∧ writtenAuthority host url.port ∈ authorities

/-- The authorities trust the redirects to be trusted, and whatever is formed with them. -/
structure RedirectsMatch (parse : String → Option (Url names)) (storage : StorageSettings)
    (authorities : List (List Char)) : Prop where
  exact : ∀ url, trustedUrl url authorities = true ↔ MayRedirect parse storage url
  formed : ∀ url, Formed parse storage authorities url → trustedUrl url authorities = true

theorem trustedRedirect_parsed {value : String} (parsed : parse value = some url) :
    trustedRedirect parse value authorities = trustedUrl url authorities := by
  rw [trustedRedirect, parsed]

/-- What `trusted_redirect` asks of a URL with a host. -/
theorem trustedUrl_iff (hosted : url.host = some host.text) :
    trustedUrl url authorities = true ↔ url.username = "" ∧ url.password = none ∧
      url.fragment = none ∧ (url.scheme = "https" ∨
        (url.scheme = "http" ∧ Host.seemsLoopback host.text = true)) ∧
      authorityText host.text url.port ∈ authorities := by
  have loopback : (Host.lowered host.text == "localhost".toList || ipIsLoopback host.text) =
      Host.seemsLoopback host.text := by
    rw [host.text_lower]
    rfl
  unfold trustedUrl
  simp only [hosted, Option.any_some, loopback]
  split
  · rename_i refused
    refine iff_of_false (by decide) fun accepted => ?_
    obtain ⟨username, password, fragment, scheme, -⟩ := accepted
    rcases refused with other | some | some | other
    · exact other username
    · rw [password] at some
      cases some
    · rw [fragment] at some
      cases some
    · exact other scheme
  · rename_i sound
    obtain ⟨username, sound⟩ := not_or.1 sound
    obtain ⟨password, sound⟩ := not_or.1 sound
    obtain ⟨fragment, sound⟩ := not_or.1 sound
    rw [List.contains_iff_mem]
    exact ⟨fun member => ⟨not_not.1 username, Option.not_isSome_iff_eq_none.1 password,
      Option.not_isSome_iff_eq_none.1 fragment, not_not.1 sound, member⟩, fun all => all.2.2.2.2⟩

theorem trustedUrl_web (trusted : trustedUrl url authorities = true) :
    url.scheme = "http" ∨ url.scheme = "https" := by
  unfold trustedUrl at trusted
  dsimp only at trusted
  split at trusted
  · cases trusted
  · rename_i sound
    have scheme := not_not.1 (not_or.1 (not_or.1 (not_or.1 sound).2).2).2
    exact scheme.elim .inr fun plain => .inl plain.1

theorem regionalHost_split (region : String) : regionalHost region =
    ['s', '3'] ++ '.' :: (region.toList ++ ".amazonaws.com".toList) := by
  simp [regionalHost]

/-- A region makes no colon. -/
theorem regionalHost_colonless (region : validRegion storage.region = true) :
    ':' ∉ regionalHost storage.region := by
  simp only [validRegion, Bool.and_eq_true] at region
  simp only [regionalHost, List.mem_append, not_or]
  refine ⟨⟨by decide, fun member => ?_⟩, by decide⟩
  exact absurd (List.all_eq_true.1 region.2 _ member) (by decide)

/-- **The derived authorities are those of the targets.** -/
theorem Accepted.authorities_mem (accepted : Accepted parse storage authorities) :
    authorityText host.text port ∈ authorities ↔ IsTarget parse storage host.text port := by
  cases accepted with
  | @custom endpoint own custom known =>
      have named : ∀ {other : Url names} {text : List Char},
          storage.endpointUrl.bind parse = some other → other.host = some text →
            other = endpoint ∧ text = own.text := by
        intro other text parsed hosted
        obtain rfl := Option.some.inj (parsed.symm.trans known.parsed)
        exact ⟨rfl, Option.some.inj (hosted.symm.trans known.hosted)⟩
      unfold customAuthorities
      rw [List.mem_cons, authorityText_endpoint]
      constructor
      · rintro (⟨same, rfl⟩ | virtual)
        · rw [same]
          exact .endpoint custom known.parsed known.hosted
        · split at virtual
          · cases virtual
          · rename_i pathStyle
            rw [List.mem_singleton, authorityText_virtual] at virtual
            obtain ⟨same, rfl⟩ := virtual
            rw [same]
            exact .subdomain custom known.parsed known.hosted (Bool.eq_false_iff.2 pathStyle)
      · intro target
        generalize shape : host.text = text at target
        cases target with
        | endpoint _ parsed hosted =>
            obtain ⟨rfl, rfl⟩ := named parsed hosted
            exact .inl ⟨rfl, rfl⟩
        | subdomain _ parsed hosted virtual =>
            obtain ⟨rfl, rfl⟩ := named parsed hosted
            rw [virtual]
            refine .inr (List.mem_singleton.2 ?_)
            rw [← shape, authorityText_virtual]
            exact ⟨shape, rfl⟩
        | regional aws =>
            rw [custom] at aws
            cases aws
        | regionalSubdomain aws =>
            rw [custom] at aws
            cases aws
  | aws aws none region =>
      have colonless := regionalHost_colonless region
      have split := regionalHost_split storage.region
      have rest : ':' ∉ storage.region.toList ++ ".amazonaws.com".toList := fun member =>
        colonless (by
          rw [split]
          exact List.mem_append_right _ (List.mem_cons_of_mem _ member))
      unfold awsAuthorities
      rw [List.mem_cons, List.mem_singleton, authorityText_name colonless]
      constructor
      · rintro (⟨same, rfl⟩ | regional)
        · rw [same]
          exact .regionalSubdomain aws
        · rw [split, authorityText_name rest, ← split] at regional
          obtain ⟨same, rfl⟩ := regional
          rw [same]
          exact .regional aws
      · intro target
        generalize shape : host.text = text at target
        cases target with
        | endpoint custom =>
            rw [aws] at custom
            cases custom
        | subdomain custom =>
            rw [aws] at custom
            cases custom
        | regional =>
            right
            rw [← shape, authorityText_none]
        | regionalSubdomain => exact .inl ⟨rfl, rfl⟩

/-- The host of the endpoint is the IPv6 loopback address, with a port an `http` URL can have. -/
def BracketedLoopback (parse : String → Option (Url names)) (storage : StorageSettings) : Prop :=
  ∃ (endpoint : Url names) (host : Host names), storage.endpointUrl.bind parse = some endpoint ∧
    endpoint.host = some host.text ∧ host.IsIpv6 ∧ host.IsLoopback ∧ endpoint.port ≠ some 80

/-- The endpoint is plain `http`, and the bucket is addressed by a name of its own below it. -/
def PlainSubdomain (parse : String → Option (Url names)) (storage : StorageSettings) : Prop :=
  ∃ (endpoint : Url names) (host : List Char), storage.endpointUrl.bind parse = some endpoint ∧
    endpoint.scheme = "http" ∧ storage.forcePathStyle = false ∧ endpoint.host = some host ∧
    names.accepts (storage.derivativeBucket.toList ++ '.' :: host) = true

/-- An IPv6 host is a target as the endpoint's host only. -/
theorem IsTarget.of_ipv6 (six : host.IsIpv6) (target : IsTarget parse storage host.text port) :
    ∃ endpoint : Url names, storage.endpointUrl.bind parse = some endpoint ∧
      endpoint.host = some host.text ∧ port = endpoint.port := by
  generalize shape : host.text = text at target
  have dotted : ∀ {front back : List Char}, host.text ≠ front ++ '.' :: back := by
    intro front back same
    exact six.dotless (by rw [same]; simp)
  cases target with
  | endpoint _ parsed hosted => exact ⟨_, parsed, hosted, rfl⟩
  | subdomain => exact absurd shape dotted
  | regional => exact absurd (shape.trans (regionalHost_split _)) dotted
  | regionalSubdomain => exact absurd shape dotted

/-- **Trusted redirects are those to be trusted**, where the endpoint is no IPv6 loopback host. -/
theorem Accepted.exact (accepted : Accepted parse storage authorities)
    (plain : ¬ BracketedLoopback parse storage) (url : Url names) :
    trustedUrl url authorities = true ↔ MayRedirect parse storage url := by
  constructor
  · intro trusted
    obtain ⟨host, hosted⟩ := url.hosted (trustedUrl_web trusted)
    obtain ⟨username, password, fragment, scheme, member⟩ := (trustedUrl_iff hosted).1 trusted
    refine ⟨username, password, fragment, scheme.imp_right fun plain => ⟨plain.1, host, hosted, ?_⟩,
      host.text, hosted, accepted.authorities_mem.1 member⟩
    exact (Host.seemsLoopback_iff.1 plain.2).1
  · intro may
    have web : url.scheme = "http" ∨ url.scheme = "https" :=
      may.scheme.elim .inr fun plain => .inl plain.1
    obtain ⟨host, hosted⟩ := url.hosted web
    obtain ⟨text, there, target⟩ := may.target
    rw [hosted] at there
    obtain rfl := Option.some.inj there
    refine (trustedUrl_iff hosted).2 ⟨may.username, may.password, may.fragment, ?_,
      accepted.authorities_mem.2 target⟩
    refine may.scheme.imp_right fun ⟨http, other, same, loopback⟩ => ⟨http, ?_⟩
    rw [hosted] at same
    rw [Option.some.inj same] at target ⊢
    refine Host.seemsLoopback_iff.2 ⟨loopback, fun six => plain ?_⟩
    obtain ⟨endpoint, parsed, named, port⟩ := target.of_ipv6 six
    exact ⟨endpoint, other, parsed, named, six, loopback, port ▸ url.unusual.1 http⟩

/-- A redirect to an IPv6 loopback endpoint over `http` is not trusted. -/
theorem Accepted.inexact (accepted : Accepted parse storage authorities)
    (loopback : BracketedLoopback parse storage) : ∃ url,
      trustedUrl url authorities = false ∧ MayRedirect parse storage url := by
  obtain ⟨endpoint, host, parsed, named, six, here, port⟩ := loopback
  have custom : storage.provider.custom = true := by
    cases accepted with
    | custom custom => exact custom
    | aws _ none =>
        rw [none] at parsed
        cases parsed
  let url : Url names := ⟨"http", "", none, some host.text, endpoint.port, "/", none, none,
    fun _ => ⟨host, rfl⟩, fun _ => port, fun https => absurd https (by decide)⟩
  refine ⟨url, Bool.eq_false_iff.2 fun trusted => ?_, rfl, rfl, rfl, .inr ⟨rfl, host, rfl, here⟩,
    host.text, rfl,
    show IsTarget parse storage host.text endpoint.port from .endpoint custom parsed named⟩
  have hosted : url.host = some host.text := rfl
  obtain ⟨-, -, -, scheme, -⟩ := (trustedUrl_iff hosted).1 trusted
  rcases scheme with https | ⟨-, seems⟩
  · have other : "http" = "https" := https
    exact absurd other (by decide)
  · exact (Host.seemsLoopback_iff.1 seems).2 six

/-- No host with brackets of its own is an IPv6 host. -/
theorem bracketed_ne {other : Host names} (six : host.IsIpv6) : bracketed other ≠ host.text := by
  intro same
  by_cases both : other.IsIpv6
  · rw [bracketed, if_pos (Host.colon_mem.2 both)] at same
    cases host with
    | domain => exact six
    | ipv4 => exact six
    | ipv6 address =>
        have inner : other.text = address.text := by
          simpa [Host.text] using same
        have bracket : '[' ∈ address.text := by
          rw [← inner]
          exact List.mem_of_mem_head? (Host.bracket_head.2 both)
        exact absurd (List.all_eq_true.1 address.text_chars.1 _ bracket) (by decide)
  · rw [bracketed, if_neg fun colon => both (Host.colon_mem.1 colon)] at same
    exact both (Host.bracket_head.1 (same ▸ Host.bracket_head.2 six))

/-- An IPv6 host with its port is no derived authority, for its brackets are written twice. -/
theorem Accepted.not_written (accepted : Accepted parse storage authorities) (six : host.IsIpv6)
    (port : Fin 65536) : host.text ++ ':' :: decimal port ∉ authorities := by
  intro member
  cases accepted with
  | @custom endpoint own custom known =>
      have named : ∀ front, host.text ++ ':' :: decimal port ≠ front ++ own.text ∨
          ¬ own.IsIpv6 := by
        intro front
        by_cases six' : own.IsIpv6
        · obtain ⟨more, ends⟩ := six'.ends
          rw [ends, ← List.append_assoc]
          exact .inl port_ne_bracket
        · exact .inr six'
      rw [customAuthorities, List.mem_cons] at member
      rcases member with first | second
      · cases port' : endpoint.port with
        | some own =>
            rw [port', authorityText_some, port_inj] at first
            exact bracketed_ne six first.1.symm
        | none =>
            rw [port', authorityText_none] at first
            have colon : own.IsIpv6 := by
              rw [← Host.colon_mem, ← first]
              simp
            exact (named []).elim (fun apart => apart first) fun other => other colon
      · split at second
        · cases second
        rw [List.mem_singleton] at second
        cases port' : endpoint.port with
        | some own =>
            rw [port', virtualAuthority, port_inj] at second
            exact six.dotless (by rw [second.1]; simp)
        | none =>
            rw [port', virtualAuthority] at second
            rcases named (storage.derivativeBucket.toList ++ ['.']) with apart | other
            · exact apart (second.trans (by simp))
            · exact port_ne_name (fun colon => other (Host.colon_mem.1 colon)) second
  | aws aws none region =>
      have split := regionalHost_split storage.region
      have colonless := regionalHost_colonless region
      simp only [awsAuthorities, List.mem_cons, List.not_mem_nil, or_false] at member
      rcases member with first | second
      · exact port_ne_name colonless first
      · rw [split] at second colonless
        exact port_ne_name (fun colon =>
          colonless (List.mem_append_right _ (List.mem_cons_of_mem _ colon))) second

/-- A written authority that is derived is the one a redirect is compared by. -/
theorem Accepted.written (accepted : Accepted parse storage authorities)
    (member : writtenAuthority host.text port ∈ authorities) :
    authorityText host.text port ∈ authorities := by
  cases port with
  | none =>
      rw [authorityText_none]
      exact member
  | some port =>
      by_cases six : host.IsIpv6
      · exact absurd member (accepted.not_written six port)
      · rw [authorityText_some, bracketed, if_neg fun colon => six (Host.colon_mem.1 colon)]
        exact member

/-- A host below the endpoint's that a URL can have is a name. -/
theorem subdomain_name {endpoint : Host names} {bucket : List Char}
    (loopback : Host.seemsLoopback endpoint.text = true)
    (below : host.text = bucket ++ '.' :: endpoint.text) :
    names.accepts (bucket ++ '.' :: endpoint.text) = true := by
  obtain ⟨here, four⟩ := Host.seemsLoopback_iff.1 loopback
  cases host with
  | domain name accepted =>
      rw [← below]
      exact accepted
  | ipv6 address =>
      have six : (Host.ipv6 address : Host names).IsIpv6 := trivial
      exact absurd (by rw [below]; simp) six.dotless
  | ipv4 address =>
      exfalso
      change address.text = _ at below
      cases endpoint with
      | domain name accepted =>
          have letter : 'l' ∈ address.text := by
            rw [below, show (Host.domain name accepted).text = "localhost".toList from here]
            simp
          rcases address.text_chars letter with digit | dot
          · exact absurd digit (by decide)
          · exact absurd dot (by decide)
      | ipv4 other =>
          have dots := address.text_dots
          rw [below, List.count_append, List.count_cons_self,
            show (Host.ipv4 other : Host names).text = other.text from rfl, other.text_dots] at dots
          omega
      | ipv6 => exact four trivial

/-- **What is formed with a derived authority is trusted**, where a plain endpoint has no
subdomain for its bucket. -/
theorem Accepted.formed (accepted : Accepted parse storage authorities)
    (plain : ¬ PlainSubdomain parse storage) (url : Url names)
    (formed : Formed parse storage authorities url) : trustedUrl url authorities = true := by
  have web : url.scheme = "http" ∨ url.scheme = "https" := by
    rw [formed.scheme, ownScheme]
    cases accepted with
    | custom _ known =>
        rw [known.parsed]
        exact known.scheme.elim .inr fun plain => .inl plain.1
    | aws _ none =>
        rw [none]
        exact .inr rfl
  obtain ⟨host, hosted⟩ := url.hosted web
  obtain ⟨text, there, written⟩ := formed.authority
  rw [hosted] at there
  obtain rfl := Option.some.inj there
  have member := accepted.written written
  refine (trustedUrl_iff hosted).2 ⟨formed.username, formed.password, formed.fragment, ?_, member⟩
  refine web.symm.imp_right fun http => ⟨http, ?_⟩
  have target := accepted.authorities_mem.1 member
  have scheme := formed.scheme
  rw [http, ownScheme] at scheme
  cases accepted with
  | aws _ none =>
      rw [none] at scheme
      have other : "http" = "https" := scheme
      exact absurd other (by decide)
  | @custom endpoint own custom known =>
      rw [known.parsed] at scheme
      have loopback : Host.seemsLoopback own.text = true := by
        rcases known.scheme with https | ⟨-, loopback⟩
        · exact absurd (scheme.trans https) (by decide)
        · exact loopback
      generalize shape : host.text = text at target ⊢
      generalize url.port = port at target
      cases target with
      | @endpoint other _ _ parsed named =>
          obtain rfl := Option.some.inj (parsed.symm.trans known.parsed)
          rw [Option.some.inj (named.symm.trans known.hosted)]
          exact loopback
      | @subdomain other _ _ parsed named virtual =>
          obtain rfl := Option.some.inj (parsed.symm.trans known.parsed)
          obtain rfl := Option.some.inj (named.symm.trans known.hosted)
          exact absurd ⟨other, _, parsed, scheme.symm, virtual, named,
            subdomain_name loopback shape⟩ plain
      | regional aws =>
          rw [custom] at aws
          cases aws
      | regionalSubdomain aws =>
          rw [custom] at aws
          cases aws

/-- Below a plain endpoint, what is formed with the bucket's authority is not trusted. -/
theorem Accepted.unformed (accepted : Accepted parse storage authorities)
    (below : PlainSubdomain parse storage) : ∃ url,
      Formed parse storage authorities url ∧ trustedUrl url authorities = false := by
  obtain ⟨endpoint, text, parsed, http, virtual, named, accepts⟩ := below
  let host : Host names := .domain _ accepts
  have unusual : endpoint.port ≠ some 80 := endpoint.unusual.1 http
  let url : Url names := ⟨"http", "", none, some host.text, endpoint.port, "/", none, none,
    fun _ => ⟨host, rfl⟩, fun _ => unusual, fun https => absurd https (by decide)⟩
  refine ⟨url, ⟨?_, rfl, rfl, rfl, host.text, rfl, ?_⟩, Bool.eq_false_iff.2 fun trusted => ?_⟩
  · rw [ownScheme, parsed]
    exact http.symm
  · cases accepted with
    | aws _ none =>
        rw [none] at parsed
        cases parsed
    | @custom other own _ known =>
        obtain rfl := Option.some.inj (parsed.symm.trans known.parsed)
        obtain rfl := Option.some.inj (named.symm.trans known.hosted)
        unfold customAuthorities
        rw [virtual]
        refine List.mem_cons_of_mem _ (List.mem_singleton.2 ?_)
        show writtenAuthority (storage.derivativeBucket.toList ++ '.' :: own.text) endpoint.port = _
        cases endpoint.port <;> simp [writtenAuthority, virtualAuthority]
  · have hosted : url.host = some host.text := rfl
    obtain ⟨-, -, -, scheme, -⟩ := (trustedUrl_iff hosted).1 trusted
    rcases scheme with https | ⟨-, seems⟩
    · have other : "http" = "https" := https
      exact absurd other (by decide)
    · have same : storage.derivativeBucket.toList ++ '.' :: text = "localhost".toList :=
        (Host.seemsLoopback_iff.1 seems).1
      have dot : '.' ∈ "localhost".toList := by
        rw [← same]
        simp
      exact absurd dot (by decide)

/-- **Redirect trust matches the configured storage** exactly where the endpoint is not the IPv6
loopback host (at a port an `http` URL can have), and no plain `http` endpoint has a subdomain for
its bucket. -/
theorem redirects_match (valid : storage.validate parse = .ok ())
    (derived : storage.deriveRedirectAuthorities parse = .ok authorities) :
    RedirectsMatch parse storage authorities ↔
      ¬ BracketedLoopback parse storage ∧ ¬ PlainSubdomain parse storage := by
  obtain ⟨made, same, accepted⟩ := validate_ok valid
  obtain rfl := Except.ok.inj (same.symm.trans derived)
  constructor
  · intro trust
    refine ⟨fun loopback => ?_, fun below => ?_⟩
    · obtain ⟨url, refused, may⟩ := accepted.inexact loopback
      rw [(trust.exact url).2 may] at refused
      cases refused
    · obtain ⟨url, formed, refused⟩ := accepted.unformed below
      rw [trust.formed url formed] at refused
      cases refused
  · rintro ⟨apart, plain⟩
    exact ⟨accepted.exact apart, accepted.formed plain⟩

end Redirects

/-! ## A store on this machine -/

/-- A name of letters, digits, dots and hyphens that is no IPv4 address. -/
def isPlainName (name : List Char) : Bool :=
  name.all (fun c => isAsciiLowercase c || isAsciiDigit c || c == '.' || c == '-') &&
    (parseIpv4 name).isNone

theorem isPlainName_clean (name : List Char) (accepted : isPlainName name = true) (c : Char)
    (member : c ∈ name) : isAsciiUppercase c = false ∧ c ≠ ':' ∧ c ≠ '[' := by
  rw [isPlainName, Bool.and_eq_true] at accepted
  have plain := List.all_eq_true.1 accepted.1 c member
  refine ⟨?_, ?_, ?_⟩
  · simp only [Bool.or_eq_true, beq_iff_eq] at plain
    rcases plain with ((lower | digit) | rfl) | rfl
    · simp only [isAsciiLowercase, Bool.and_eq_true, decide_eq_true_eq] at lower
      have high : 97 ≤ c.toNat := UInt32.le_iff_toNat_le.1 lower.1
      exact Host.not_uppercase (.inr (by omega))
    · exact Host.digit_lower digit
    · decide
    · decide
  · rintro rfl
    exact absurd plain (by decide)
  · rintro rfl
    exact absurd plain (by decide)

theorem isPlainName_unnumbered (name : List Char) (accepted : isPlainName name = true) :
    parseIpv4 name = none := by
  rw [isPlainName, Bool.and_eq_true, Option.isNone_iff_eq_none] at accepted
  exact accepted.2

/-- Such names. -/
def plainNames : DomainNames := ⟨isPlainName, isPlainName_clean, isPlainName_unnumbered⟩

/-- A URL of a store on this machine. -/
def localUrl (name : List Char) (accepted : plainNames.accepts name = true) (path : String) :
    Url plainNames where
  scheme := "http"
  username := ""
  password := none
  host := some name
  port := some 9000
  path := path
  query := none
  fragment := none
  hosted _ := ⟨.domain name accepted, rfl⟩
  unusual := by decide

/-- The endpoint of the store, and an object of the bucket `media` below it. -/
def localParse : String → Option (Url plainNames)
  | "http://localhost:9000" => some (localUrl "localhost".toList (by decide) "/")
  | "http://media.localhost:9000/a" => some (localUrl "media.localhost".toList (by decide) "/a")
  | _ => none

/-- Its settings; the bucket is addressed by path or by a host of its own. -/
def localStorage (forcePathStyle : Bool) : StorageSettings where
  provider := .generic
  endpointUrl := some "http://localhost:9000"
  region := "us-east-1"
  rawBucket := "raw"
  derivativeBucket := "media"
  accessKeyId := "access"
  secretAccessKey := "secret"
  forcePathStyle := forcePathStyle

/-- What they derive. -/
def localAuthorities : List (List Char) :=
  ["localhost:9000".toList, "media.localhost:9000".toList]

/-- **Accepted settings whose every delivery fails.**  The bucket's own host below a plain
`localhost` is derived, and redirects to it are not trusted. -/
theorem subdomain_untrusted : (localStorage false).validate localParse = .ok () ∧
    (localStorage false).deriveRedirectAuthorities localParse = .ok localAuthorities ∧
    trustedRedirect localParse "http://media.localhost:9000/a" localAuthorities = false ∧
    ¬ RedirectsMatch localParse (localStorage false) localAuthorities := by
  have refused : trustedUrl (localUrl "media.localhost".toList (by decide) "/a")
      localAuthorities = false := by
    decide +kernel
  refine ⟨by decide +kernel, by decide +kernel, refused, fun trust => ?_⟩
  have formed : Formed localParse (localStorage false) localAuthorities
      (localUrl "media.localhost".toList (by decide) "/a") :=
    ⟨rfl, rfl, rfl, rfl, _, rfl, by decide⟩
  rw [trust.formed _ formed] at refused
  cases refused

/-- The same store, addressed by path. -/
theorem redirects_match_sample :
    RedirectsMatch localParse (localStorage true) ["localhost:9000".toList] := by
  refine (redirects_match (by decide +kernel) (by decide +kernel)).2 ⟨?_, ?_⟩
  · rintro ⟨endpoint, host, parsed, hosted, six, -⟩
    have bracket := Host.bracket_head.2 six
    obtain rfl := Option.some.inj parsed
    rw [← Option.some.inj hosted] at bracket
    exact absurd bracket (by decide)
  · rintro ⟨endpoint, host, -, -, virtual, -⟩
    cases virtual

end MediaBooster.Config
