/-
# Auth.Replay -- when a signed request can be accepted twice

A run of the API's authentication: requests arrive in any order, each is verified
at one reading of the server clock and consumes its nonce at a later one, and the
consumptions happen in clock order.  The nonce is remembered for the skew from the
*consumption*, while the signature is verified for the skew around the request's
own *timestamp*, so the memory outlasts the signature only when the consumption
comes after the timestamp.

`accepted_once` is both halves: where every accepted request is consumed later than its
timestamp (by more than the delay between the two readings), no request is accepted
twice; and a request that was not, is accepted again when its nonce expires.
-/
import MediaBooster.Auth.Request

namespace MediaBooster.Auth

set_option autoImplicit false

open MediaBooster.Domain MediaBooster.Store MediaBooster.Theory MediaBooster.Theory.Run
open MediaBooster.Theory.Transaction

/-! ## Runs -/

/-- A request and the two readings of the clock its processing makes. -/
structure Arrival where
  request : ApiRequest
  verifyAt : OffsetDateTime
  consumeAt : OffsetDateTime
  ordered : verifyAt ≤ consumeAt

/-- One request is processed: accepted, refused, or failed by the backend. -/
inductive Step (crypto : Crypto) (state : ApiState) :
    SqliteStore → Arrival × Bool → SqliteStore → Prop
  | accepted {store store' : SqliteStore} {arrival : Arrival} {tenantId : String}
      (ran : authenticateRequest crypto state arrival.request arrival.verifyAt arrival.consumeAt
        store = (.ok tenantId, store')) :
      Step crypto state store (arrival, true) store'
  | refused {store store' : SqliteStore} {arrival : Arrival} {rejection : Rejection}
      (ran : authenticateRequest crypto state arrival.request arrival.verifyAt arrival.consumeAt
        store = (.error rejection, store')) :
      Step crypto state store (arrival, false) store'
  | unavailable (store : SqliteStore) (arrival : Arrival) :
      Step crypto state store (arrival, false) store

/-- The consumptions of a run are in clock order. -/
def Chronological (labels : List (Arrival × Bool)) : Prop :=
  labels.Pairwise fun earlier later => earlier.1.consumeAt ≤ later.1.consumeAt

/-- No two accepted requests are signed for the same key, nonce and timestamp. -/
def NoReplay (labels : List (Arrival × Bool)) : Prop :=
  labels.Pairwise fun first second => first.2 = true → second.2 = true →
    first.1.request.credential ≠ second.1.request.credential

/-- The nonce is consumed within `gap` seconds of the verification, and more than
`gap` seconds after the request's own timestamp. -/
def ConsumedAfter (gap : Int) (arrival : Arrival) : Prop :=
  arrival.consumeAt.unixTimestamp - arrival.verifyAt.unixTimestamp ≤ gap ∧
    ∀ keyId nonce timestamp, arrival.request.credential = some (keyId, nonce, timestamp) →
      timestamp + gap < arrival.consumeAt.unixTimestamp

/-! ## Runs as attempts of the abstract memory -/

/-- The attempt an arrival makes, if it gets as far as its nonce. -/
def attemptOf (auth : ApiAuth) (arrival : Arrival) :
    ReplayWindow.Attempt (String × String) Int where
  key := (arrival.request.credential.map fun (keyId, nonce, _) => (keyId, nonce)).getD ("", "")
  now := arrival.consumeAt.unixTimestamp
  expiry := arrival.consumeAt.unixTimestamp + auth.allowedSkewSeconds

theorem Step.refines {crypto : Crypto} {state : ApiState} {auth : ApiAuth}
    {store store' : SqliteStore} {label : Arrival × Bool} (configured : state.auth = some auth)
    (keyed : store.NoncesKeyed) (step : Step crypto state store label store') :
    store'.NoncesKeyed ∧
      ReplayWindow.Step store.nonceMemory (attemptOf auth label.1, label.2) store'.nonceMemory := by
  cases step with
  | accepted ran =>
      obtain ⟨auth', signed, expiresAt, presents, -, fits, consumed, -⟩ :=
        authenticateRequest_ok_iff.1 ran
      obtain rfl : auth' = auth := by
        have := presents.configured
        rw [configured] at this
        exact (Option.some.inj this).symm
      have consumption := consume_ok keyed consumed
      rw [(OffsetDateTime.checkedAddSeconds_eq_some fits).2] at consumption
      simpa [attemptOf, presents.credential] using consumption
  | refused ran =>
      rw [authenticateRequest_atomic _ _ _ _ _ _ _ _ ran]
      exact ⟨keyed, .refused _ _⟩
  | unavailable => exact ⟨keyed, .refused _ _⟩

theorem trace_refines {crypto : Crypto} {state : ApiState} {auth : ApiAuth}
    {store store' : SqliteStore} {labels : List (Arrival × Bool)}
    (configured : state.auth = some auth) (keyed : store.NoncesKeyed)
    (run : Trace (Step crypto state) store labels store') :
    store'.NoncesKeyed ∧
      Trace ReplayWindow.Step store.nonceMemory
        (labels.map fun label => (attemptOf auth label.1, label.2)) store'.nonceMemory := by
  induction run with
  | nil => exact ⟨keyed, .nil _⟩
  | cons step _ ih =>
      obtain ⟨keyed', refined⟩ := step.refines configured keyed
      obtain ⟨keyedEnd, rest⟩ := ih keyed'
      exact ⟨keyedEnd, .cons refined rest⟩

/-- An accepted request presents its credential inside the window, under a
configuration that was there. -/
theorem Step.accepted_inv {crypto : Crypto} {state : ApiState} {store store' : SqliteStore}
    {arrival : Arrival} (step : Step crypto state store (arrival, true) store') :
    ∃ auth signed expiresAt, Presents crypto state arrival.request auth signed ∧
      verify crypto signed auth.secret arrival.verifyAt.unixTimestamp auth.allowedSkewSeconds =
        .ok () ∧
      arrival.consumeAt.checkedAddSeconds auth.allowedSkewSeconds = some expiresAt ∧
      consume signed.keyId signed.nonce arrival.consumeAt expiresAt store = (.ok (), store') := by
  cases step with
  | accepted ran =>
      obtain ⟨auth, signed, expiresAt, presents, verified, fits, consumed, -⟩ :=
        authenticateRequest_ok_iff.1 ran
      exact ⟨auth, signed, expiresAt, presents, verified, fits, consumed⟩

/-! ## The two halves -/

/-- Where every accepted request is consumed after its timestamp, nothing is accepted twice. -/
theorem noReplay_of_consumedAfter {crypto : Crypto} {state : ApiState} {gap : Int}
    {store store' : SqliteStore} {labels : List (Arrival × Bool)} (keyed : store.NoncesKeyed)
    (run : Trace (Guarded (Step crypto state) fun _ label => label.2 = true →
      ConsumedAfter gap label.1) store labels store') (chronological : Chronological labels) : NoReplay labels := by
  by_cases started : ∃ auth, state.auth = some auth
  · obtain ⟨auth, configured⟩ := started
    obtain ⟨-, refined⟩ := trace_refines configured keyed run.unguarded
    have readings : ReplayWindow.Chronological
        (labels.map fun label => (attemptOf auth label.1, label.2)) :=
      List.pairwise_map.2 (chronological.imp OffsetDateTime.unixTimestamp_mono)
    have expired := List.pairwise_map.1 (ReplayWindow.readmitted_after_expiry refined readings)
    refine expired.imp_of_mem ?_
    intro first second firstMember secondMember late firstAccepted secondAccepted same
    obtain ⟨_, _, firstStep, firstGuard⟩ := run.step_of_mem firstMember
    obtain ⟨_, _, secondStep, secondGuard⟩ := run.step_of_mem secondMember
    obtain ⟨first, rfl⟩ : ∃ arrival, first = (arrival, true) := ⟨first.1, by rw [← firstAccepted]⟩
    obtain ⟨second, rfl⟩ : ∃ arrival, second = (arrival, true) :=
      ⟨second.1, by rw [← secondAccepted]⟩
    obtain ⟨auth₁, signed, _, presents, -, -, -⟩ := firstStep.accepted_inv
    obtain ⟨auth₂, signed₂, _, presents₂, verified, -, -⟩ := secondStep.accepted_inv
    have sameAuth : auth₂ = auth := by
      have := presents₂.configured
      rw [configured] at this
      exact (Option.some.inj this).symm
    subst sameAuth
    have sameTimestamp : signed₂.timestamp = signed.timestamp := by
      have := same
      rw [presents.credential, presents₂.credential] at this
      simp only [Option.some.injEq, Prod.mk.injEq] at this
      exact this.2.2.symm
    -- the second consumption comes after the first one's expiry, the second
    -- verification before the end of the timestamp's own window
    have after := late rfl rfl (by simp only [attemptOf, same])
    have window := (verify_window verified).2.2
    have gapSecond : second.consumeAt.unixTimestamp - second.verifyAt.unixTimestamp ≤ gap :=
      (secondGuard rfl).1
    have gapFirst : signed.timestamp + gap < first.consumeAt.unixTimestamp :=
      (firstGuard rfl).2 _ _ _ presents.credential
    simp only [attemptOf] at after
    omega
  · -- without a configuration nothing is accepted
    refine List.pairwise_of_forall_mem_list fun first firstMember second _ accepted => ?_
    obtain ⟨_, _, step, -⟩ := run.step_of_mem firstMember
    obtain ⟨arrival, rfl⟩ : ∃ arrival, first = (arrival, true) := ⟨first.1, by rw [← accepted]⟩
    obtain ⟨auth, _, _, presents, -⟩ := step.accepted_inv
    exact absurd ⟨auth, presents.configured⟩ started

/-- A request consumed no later than `gap` seconds after its timestamp is accepted
again when its nonce expires. -/
theorem accepted_again {crypto : Crypto} {state : ApiState} {auth : ApiAuth} {gap : Int}
    {store middle : SqliteStore} {first : Arrival} {keyId nonce : String} {timestamp : Int}
    (configured : state.auth = some auth) (keyed : store.NoncesKeyed) (nonneg : 0 ≤ gap)
    (short : gap ≤ auth.allowedSkewSeconds) (step : Step crypto state store (first, true) middle)
    (signed : first.request.credential = some (keyId, nonce, timestamp))
    (early : first.consumeAt.unixTimestamp ≤ timestamp + gap)
    (representable : first.consumeAt.unixTimestamp + 2 * auth.allowedSkewSeconds ≤
      maxUnixTimestamp) :
    ∃ second later, second.request = first.request ∧ first.consumeAt ≤ second.verifyAt ∧
      second.consumeAt.unixTimestamp - second.verifyAt.unixTimestamp ≤ gap ∧
      Step crypto state middle (second, true) later := by
  obtain ⟨auth', request, expiresAt, presents, verified, fits, consumed⟩ := step.accepted_inv
  obtain rfl : auth' = auth := by
    have := presents.configured
    rw [configured] at this
    exact (Option.some.inj this).symm
  obtain ⟨rfl, rfl, rfl⟩ : request.keyId = keyId ∧ request.nonce = nonce ∧
      request.timestamp = timestamp := by
    rw [presents.credential] at signed
    simpa using signed
  obtain ⟨-, lower, -⟩ := verify_window verified
  obtain ⟨expiresNanos, expiresSeconds⟩ := OffsetDateTime.checkedAddSeconds_eq_some fits
  -- the clock of the second attempt: consumption at the expiry, verification `gap` before it
  obtain ⟨verifyAt, verifyFits⟩ := OffsetDateTime.checkedAddSeconds_isSome first.consumeAt
    (show 0 ≤ auth'.allowedSkewSeconds - gap by omega) (by omega)
  obtain ⟨verifyNanos, verifySeconds⟩ := OffsetDateTime.checkedAddSeconds_eq_some verifyFits
  obtain ⟨secondExpiresAt, secondFits⟩ := OffsetDateTime.checkedAddSeconds_isSome expiresAt
    (show 0 ≤ auth'.allowedSkewSeconds by omega) (by omega)
  obtain ⟨secondNanos, -⟩ := OffsetDateTime.checkedAddSeconds_eq_some secondFits
  have ordered : verifyAt ≤ expiresAt := by
    rw [OffsetDateTime.le_def, verifyNanos, expiresNanos]
    omega
  obtain ⟨keyChecked, nonceChecked, future⟩ := consume_ok_checked consumed
  rw [OffsetDateTime.le_def, not_le] at future
  obtain ⟨keyed', memory⟩ := consume_ok keyed consumed
  have known : middle.nonceMemory (request.keyId, request.nonce) =
      some expiresAt.unixTimestamp := memory.stores
  have verifiedAgain : verify crypto request auth'.secret verifyAt.unixTimestamp
      auth'.allowedSkewSeconds = .ok () := by
    have read := OffsetDateTime.unixTimestamp_mono first.ordered
    exact verify_later verified (by omega) (by omega)
  have renewed : expiresAt < secondExpiresAt := by
    rw [OffsetDateTime.lt_def, secondNanos]
    omega
  obtain ⟨later, consumedAgain⟩ := consume_again keyed' keyChecked nonceChecked renewed known le_rfl
  refine ⟨⟨first.request, verifyAt, expiresAt, ordered⟩, later, rfl, ?_, ?_, ?_⟩
  · rw [OffsetDateTime.le_def, verifyNanos]
    omega
  · simp only
    omega
  · exact .accepted (authenticateRequest_ok_iff.2
      ⟨auth', request, secondExpiresAt, presents, verifiedAgain, secondFits, consumedAgain, rfl⟩)

/-- **A request is accepted once, where its nonce is consumed after its timestamp.**
In every run whose accepted requests are each consumed more than `gap` seconds after their
timestamp, `gap` bounding the delay between the two readings of the clock, no
request is accepted twice; and after any run, a request accepted no later than
that is accepted again at the moment its nonce expires. -/
theorem accepted_once (crypto : Crypto) (state : ApiState) (gap : Int) (store : SqliteStore)
    (keyed : store.NoncesKeyed) :
    (∀ labels store',
      Trace (Guarded (Step crypto state) fun _ label => label.2 = true → ConsumedAfter gap label.1)
        store labels store' → Chronological labels → NoReplay labels) ∧
    ∀ labels store' auth first middle keyId nonce timestamp,
      Trace (Step crypto state) store labels store' → state.auth = some auth → 0 ≤ gap →
      gap ≤ auth.allowedSkewSeconds → Step crypto state store' (first, true) middle →
      first.request.credential = some (keyId, nonce, timestamp) →
      first.consumeAt.unixTimestamp ≤ timestamp + gap →
      first.consumeAt.unixTimestamp + 2 * auth.allowedSkewSeconds ≤ maxUnixTimestamp →
      ∃ second later, second.request = first.request ∧ first.consumeAt ≤ second.verifyAt ∧
        second.consumeAt.unixTimestamp - second.verifyAt.unixTimestamp ≤ gap ∧
        Step crypto state middle (second, true) later := by
  constructor
  · intro labels store' run chronological
    exact noReplay_of_consumedAfter keyed run chronological
  · intro labels store' auth first middle keyId nonce timestamp run configured nonneg short step
      signed early representable
    have keyed' := (trace_refines configured keyed run).1
    exact accepted_again configured keyed' nonneg short step signed early representable

/-! ## A request of the first second -/

/-- The primitives at the one request below. -/
def sampleCrypto : Crypto where
  decodeBase64Url text :=
    if text = "HYndTPgzV2MejsinTvxqdDO5Tk9H81PZ6HlM9FGmkKY" then some
      [29, 137, 221, 76, 248, 51, 87, 99, 30, 142, 200, 167, 78, 252, 106, 116, 51, 185, 78, 79,
        71, 243, 83, 217, 232, 121, 76, 244, 81, 166, 144, 166]
    else none
  hmacSha256 secret payload :=
    if secret = "0123456789abcdef0123456789abcdef" ∧
        payload = "G7MB-HMAC-SHA256\ng5-primary\n1700000000\n0123456789abcdef0123456789abcdef\n" ++
          "GET\n/v1/capabilities\n" ++
          "e3b0c44298fc1c149afbf4c8996fb92427ae41e4649b934ca495991b7852b855" then
      [29, 137, 221, 76, 248, 51, 87, 99, 30, 142, 200, 167, 78, 252, 106, 116, 51, 185, 78, 79,
        71, 243, 83, 217, 232, 121, 76, 244, 81, 166, 144, 166]
    else []
  sha256Hex body :=
    if body = [] then "e3b0c44298fc1c149afbf4c8996fb92427ae41e4649b934ca495991b7852b855" else ""

def sampleAuth : ApiAuth where
  keyId := "g5-primary"
  tenantId := "g5"
  secret := "0123456789abcdef0123456789abcdef"
  allowedSkewSeconds := 300

def sampleState : ApiState := ⟨some sampleAuth, true⟩

/-- A request signed for second 1700000000. -/
def sampleRequest : ApiRequest where
  headers :=
    [("x-g7mb-key-id", "g5-primary"), ("x-g7mb-timestamp", "1700000000"),
      ("x-g7mb-nonce", "0123456789abcdef0123456789abcdef"),
      ("x-g7mb-content-sha256",
        "e3b0c44298fc1c149afbf4c8996fb92427ae41e4649b934ca495991b7852b855"),
      ("x-g7mb-signature", "HYndTPgzV2MejsinTvxqdDO5Tk9H81PZ6HlM9FGmkKY")]
  body := []
  method := "GET"
  pathAndQuery := "/v1/capabilities"

/-- The request arrives `delay` seconds after its timestamp. -/
def sampleArrival (delay : Fin 1000) : Arrival where
  request := sampleRequest
  verifyAt := ⟨(1700000000 + delay.val) * 1000000000, by simp only [minUnixTimestamp]; omega,
    by simp only [maxUnixTimestamp]; omega⟩
  consumeAt := ⟨(1700000000 + delay.val) * 1000000000, by simp only [minUnixTimestamp]; omega,
    by simp only [maxUnixTimestamp]; omega⟩
  ordered := le_refl (α := Int) _

theorem sampleRequest_credential :
    sampleRequest.credential = some ("g5-primary", "0123456789abcdef0123456789abcdef", 1700000000) := by
  decide

/-- What the API answers to the sample, and the store it leaves. -/
def processSample (delay : Fin 1000) (store : SqliteStore) : Except Rejection String × SqliteStore :=
  authenticateRequest sampleCrypto sampleState (sampleArrival delay).request
    (sampleArrival delay).verifyAt (sampleArrival delay).consumeAt store

theorem sample_accepted {delay : Fin 1000} {store : SqliteStore}
    (answer : (processSample delay store).1 = .ok "g5") :
    Step sampleCrypto sampleState store (sampleArrival delay, true)
      (processSample delay store).2 := by
  apply Step.accepted
  have both := Prod.eta (processSample delay store)
  rw [answer] at both
  exact both.symm

theorem sample_refused {delay : Fin 1000} {store : SqliteStore} (rejection : Rejection)
    (answer : (processSample delay store).1 = .error rejection) :
    Step sampleCrypto sampleState store (sampleArrival delay, false)
      (processSample delay store).2 := by
  apply Step.refused
  have both := Prod.eta (processSample delay store)
  rw [answer] at both
  exact both.symm

theorem migrated_noncesKeyed : SqliteStore.migrated.NoncesKeyed := List.nodup_nil

set_option maxRecDepth 20000 in
theorem sample_first_second :
    Step sampleCrypto sampleState SqliteStore.migrated (sampleArrival 0, true)
      (processSample 0 SqliteStore.migrated).2 :=
  sample_accepted (by decide)

set_option maxRecDepth 20000 in
/-- A request processed in the second it was signed for is accepted again 300
seconds later, in the last second its timestamp is fresh. -/
theorem same_second_replayed :
    ¬∀ (crypto : Crypto) (state : ApiState) (labels : List (Arrival × Bool)) (store : SqliteStore),
      Trace (Step crypto state) SqliteStore.migrated labels store → Chronological labels →
        NoReplay labels := by
  intro protected_
  have again : Step sampleCrypto sampleState (processSample 0 SqliteStore.migrated).2
      (sampleArrival 300, true) (processSample 300 (processSample 0 SqliteStore.migrated).2).2 :=
    sample_accepted (by decide)
  have run := Trace.cons sample_first_second (Trace.single again)
  have chronological : Chronological [(sampleArrival 0, true), (sampleArrival 300, true)] := by
    simp only [Chronological, List.pairwise_cons, List.mem_singleton, List.not_mem_nil]
    refine ⟨?_, by simp⟩
    rintro _ rfl
    decide
  have distinct := protected_ _ _ _ _ run chronological
  exact (List.pairwise_cons.1 distinct).1 _ (List.mem_singleton.2 rfl) rfl rfl rfl

set_option maxRecDepth 20000 in
/-- Both halves at the sample: processed a second late it is refused afterwards;
processed at once it is accepted again. -/
theorem accepted_once_sample :
    NoReplay [(sampleArrival 1, true), (sampleArrival 300, false)] ∧
      ∃ second later, second.request = sampleRequest ∧
        (sampleArrival 0).consumeAt ≤ second.verifyAt ∧
        second.consumeAt.unixTimestamp - second.verifyAt.unixTimestamp ≤ 0 ∧
        Step sampleCrypto sampleState (processSample 0 SqliteStore.migrated).2 (second, true) later := by
  have late : ∀ delay : Fin 1000, 0 < delay.val → ConsumedAfter 0 (sampleArrival delay) := by
    intro delay positive
    refine ⟨by simp [sampleArrival], ?_⟩
    intro keyId nonce timestamp signed
    rw [show (sampleArrival delay).request = sampleRequest from rfl, sampleRequest_credential]
      at signed
    simp only [Option.some.injEq, Prod.mk.injEq] at signed
    simp only [sampleArrival, OffsetDateTime.unixTimestamp]
    omega
  have accepted : Step sampleCrypto sampleState SqliteStore.migrated (sampleArrival 1, true)
      (processSample 1 SqliteStore.migrated).2 := sample_accepted (by decide)
  have refused : Step sampleCrypto sampleState (processSample 1 SqliteStore.migrated).2
      (sampleArrival 300, false) (processSample 300 (processSample 1 SqliteStore.migrated).2).2 :=
    sample_refused (.failure (.fromNonce .replay)) (by decide)
  have chronological : Chronological [(sampleArrival 1, true), (sampleArrival 300, false)] := by
    simp only [Chronological, List.pairwise_cons, List.mem_singleton, List.not_mem_nil]
    refine ⟨?_, by simp⟩
    rintro _ rfl
    decide
  refine ⟨(accepted_once sampleCrypto sampleState 0 SqliteStore.migrated migrated_noncesKeyed).1 _ _
    (.cons ⟨accepted, fun _ => late 1 (by decide)⟩ (.single ⟨refused, fun never => by cases never⟩))
    chronological, ?_⟩
  exact (accepted_once sampleCrypto sampleState 0 SqliteStore.migrated migrated_noncesKeyed).2 []
    SqliteStore.migrated sampleAuth (sampleArrival 0) _ _ _ _ (.nil _) rfl le_rfl (by decide)
    sample_first_second sampleRequest_credential (by decide) (by decide)

end MediaBooster.Auth
