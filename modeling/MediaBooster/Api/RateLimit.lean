/-
# Api.RateLimit -- the two token buckets of the API

The control API and the public listener each admit requests from a token bucket.  Both refill
it in the same way: whole tokens for the time since the last refill, and from then on the time
counts from the moment the request came (`admitToken`).  The clock is read twice, once for
that moment and once for the time that has passed.

Measured by the bucket that fills continuously (`Theory.TokenBucket`), a refill drops the part
of a token it did not pay out, keeps such a part for later where the bucket was full anyway, and
counts what passes between its two readings again.  `limiters_exact`: a run in which no call
does any of this (`ExactArrival`), but for at most as many calls at its end as the bucket holds
tokens by then, admits in no window more than the burst and the rate allow, and refuses no request
that a whole token is there for.  `lostFraction` and `keptFraction` are runs in which more calls do.
-/
import MediaBooster.Domain.Primitives
import MediaBooster.Theory.TokenBucket

namespace MediaBooster.Api

set_option autoImplicit false

open MediaBooster.Domain MediaBooster.Theory.TokenBucket

/-! ## The policies -/

/-- `ApiRateLimitPolicy`. -/
structure ApiRateLimitPolicy where
  /-- Sustained requests replenished per second. -/
  requestsPerSecond : Nat
  /-- Short token-bucket burst capacity. -/
  burst : Nat
  /-- Maximum protected handlers simultaneously in flight. -/
  maxInFlight : Nat

/-- `ApiRateLimitPolicy::is_valid`. -/
def ApiRateLimitPolicy.isValid (policy : ApiRateLimitPolicy) : Bool :=
  decide (0 < policy.requestsPerSecond) && decide (policy.requestsPerSecond ≤ 10000) &&
    decide (policy.requestsPerSecond ≤ policy.burst) && decide (policy.burst ≤ 100000) &&
    decide (0 < policy.maxInFlight) && decide (policy.maxInFlight ≤ 1024)

/-- `ApiRateLimitPolicy::default`. -/
def ApiRateLimitPolicy.default : ApiRateLimitPolicy where
  requestsPerSecond := 50
  burst := 100
  maxInFlight := 64

/-- `PublicDeliveryPolicy`. -/
structure PublicDeliveryPolicy where
  tokenMaxTtl : Duration
  requestsPerSecond : Nat
  burst : Nat
  maxInFlight : Nat

/-- `PublicDeliveryPolicy::is_valid`. -/
def PublicDeliveryPolicy.isValid (policy : PublicDeliveryPolicy) : Bool :=
  decide (30 * 1000000000 ≤ policy.tokenMaxTtl.nanos ∧
      policy.tokenMaxTtl.nanos ≤ 60 * 60 * 1000000000) &&
    decide (1 ≤ policy.requestsPerSecond ∧ policy.requestsPerSecond ≤ 10000) &&
    decide (policy.requestsPerSecond ≤ policy.burst) && decide (policy.burst ≤ 100000) &&
    decide (1 ≤ policy.maxInFlight ∧ policy.maxInFlight ≤ 1024)

/-! ## The buckets -/

/-- `TokenBucket`: tokens, and the instant of the last refill in nanoseconds. -/
structure TokenBucket where
  tokens : Nat
  refilledAt : Nat
deriving DecidableEq

/-- The two clock readings of one call, taken under the lock of the bucket.  The monotonic clock
counts nanoseconds up to what a `Duration` holds. -/
structure Arrival where
  /-- `Instant::now()`. -/
  now : Nat
  /-- The reading of `elapsed()`. -/
  read : Nat
  order : now ≤ read
  fits : read < 2 ^ 64 * 1000000000

/-- `u64::try_from(refill).unwrap_or(u64::MAX)`. -/
def saturated (refill : Nat) : Nat := if refill < 2 ^ 64 then refill else 2 ^ 64 - 1

/-- The whole tokens for the time since the last refill. -/
def refill (requestsPerSecond : Nat) (bucket : TokenBucket) (arrival : Arrival) : Nat :=
  min ((arrival.read - bucket.refilledAt) * requestsPerSecond) (2 ^ 128 - 1) / 1000000000

/-- The bucket after the refill of a call. -/
def refilled (requestsPerSecond burst : Nat) (bucket : TokenBucket) (arrival : Arrival) :
    TokenBucket :=
  let refill := refill requestsPerSecond bucket arrival
  if 0 < refill then
    { tokens := min (min (bucket.tokens + saturated refill) (2 ^ 64 - 1)) burst
      refilledAt := arrival.now }
  else bucket

/-- The body of both `admit_token` and `admit`. -/
def admitToken (requestsPerSecond burst : Nat) (bucket : TokenBucket) (arrival : Arrival) :
    Bool × TokenBucket :=
  let bucket := refilled requestsPerSecond burst bucket arrival
  if bucket.tokens = 0 then (false, bucket)
  else (true, { bucket with tokens := bucket.tokens - 1 })

/-- `ApiRateLimiter::new`. -/
def ApiRateLimiter.new (policy : ApiRateLimitPolicy) (created : Nat) : TokenBucket :=
  ⟨policy.burst, created⟩

/-- `ApiRateLimiter::admit_token`. -/
def ApiRateLimiter.admitToken (policy : ApiRateLimitPolicy) (bucket : TokenBucket)
    (arrival : Arrival) : Bool × TokenBucket :=
  Api.admitToken policy.requestsPerSecond policy.burst bucket arrival

/-- `PublicDeliveryLimiter::new`. -/
def PublicDeliveryLimiter.new (policy : PublicDeliveryPolicy) (created : Nat) : TokenBucket :=
  ⟨policy.burst, created⟩

/-- `PublicDeliveryLimiter::admit`. -/
def PublicDeliveryLimiter.admitRequest (policy : PublicDeliveryPolicy) (bucket : TokenBucket)
    (arrival : Arrival) : Bool × TokenBucket :=
  Api.admitToken policy.requestsPerSecond policy.burst bucket arrival

/-! ## Runs -/

/-- One call after the other: the lock is held from the first reading to the end of the call. -/
def InOrder (instant : Nat) : List Arrival → Prop
  | [] => True
  | arrival :: rest => instant ≤ arrival.now ∧ InOrder arrival.read rest

/-- The calls of a run, each at the instant it came. -/
def decided (allows : TokenBucket → Arrival → Bool × TokenBucket) (bucket : TokenBucket) :
    List Arrival → List Call
  | [] => []
  | arrival :: rest =>
      ⟨arrival.now, (allows bucket arrival).1⟩ :: decided allows (allows bucket arrival).2 rest

/-- A token is paid for by a second's worth of the rate; amounts count nanoseconds of it. -/
def continuous (requestsPerSecond burst : Nat) : Bucket where
  unit := 1000000000
  capacity := burst * 1000000000
  rate := requestsPerSecond

/-- The bucket that fills continuously, full when the limiter is created. -/
def full (burst created : Nat) : Level := ⟨(burst * 1000000000 : Nat), created⟩

/-- What a rate limit promises of its calls. -/
structure Limited (requestsPerSecond burst created : Nat) (calls : List Call) : Prop where
  /-- A window admits the burst and what the rate adds meanwhile. -/
  upper : ∀ start length,
    1000000000 * admittedBetween start (start + length) calls ≤
      burst * 1000000000 + requestsPerSecond * length
  /-- A call is refused only where less than a token was earned. -/
  lower : Fair (continuous requestsPerSecond burst) (full burst created) calls

/-- What the time since the last refill is worth when a call comes. -/
def earned (requestsPerSecond : Nat) (bucket : TokenBucket) (arrival : Arrival) : Nat :=
  (arrival.now - bucket.refilledAt) * requestsPerSecond

/-- What the refill of the call takes it for. -/
def seen (requestsPerSecond : Nat) (bucket : TokenBucket) (arrival : Arrival) : Nat :=
  (arrival.read - bucket.refilledAt) * requestsPerSecond

/-- A call whose refill neither drops, keeps nor adds a part of a token. -/
structure ExactArrival (requestsPerSecond burst : Nat) (bucket : TokenBucket) (arrival : Arrival) :
    Prop where
  /-- Nothing came into a full bucket that is not refilled. -/
  idle : seen requestsPerSecond bucket arrival < 1000000000 → bucket.tokens = burst →
    earned requestsPerSecond bucket arrival = 0
  /-- A refill fills the bucket, or it is of whole tokens that came in before the call. -/
  whole : 1000000000 ≤ seen requestsPerSecond bucket arrival →
    burst * 1000000000 ≤ bucket.tokens * 1000000000 + earned requestsPerSecond bucket arrival ∨
      (earned requestsPerSecond bucket arrival % 1000000000 = 0 ∧
        seen requestsPerSecond bucket arrival / 1000000000 =
          earned requestsPerSecond bucket arrival / 1000000000)

/-- The calls of the run are exact until no more are left than the bucket holds tokens: as many as
the burst from the start, if there are no others. -/
def ExactRun (requestsPerSecond burst : Nat) (bucket : TokenBucket) : List Arrival → Prop
  | [] => True
  | arrival :: rest =>
      rest.length < bucket.tokens ∨
        ExactArrival requestsPerSecond burst bucket arrival ∧
          ExactRun requestsPerSecond burst (admitToken requestsPerSecond burst bucket arrival).2 rest

instance decidableInOrder (instant : Nat) :
    (arrivals : List Arrival) → Decidable (InOrder instant arrivals)
  | [] => inferInstanceAs (Decidable True)
  | arrival :: rest =>
      have := decidableInOrder arrival.read rest
      inferInstanceAs (Decidable (_ ∧ _))

instance (requestsPerSecond burst : Nat) (bucket : TokenBucket) (arrival : Arrival) :
    Decidable (ExactArrival requestsPerSecond burst bucket arrival) :=
  decidable_of_iff
    ((seen requestsPerSecond bucket arrival < 1000000000 → bucket.tokens = burst →
        earned requestsPerSecond bucket arrival = 0) ∧
      (1000000000 ≤ seen requestsPerSecond bucket arrival →
        burst * 1000000000 ≤ bucket.tokens * 1000000000 + earned requestsPerSecond bucket arrival ∨
          (earned requestsPerSecond bucket arrival % 1000000000 = 0 ∧
            seen requestsPerSecond bucket arrival / 1000000000 =
              earned requestsPerSecond bucket arrival / 1000000000)))
    ⟨fun both => ⟨both.1, both.2⟩, fun exact_ => ⟨exact_.idle, exact_.whole⟩⟩

instance decidableExactRun (requestsPerSecond burst : Nat) :
    (bucket : TokenBucket) → (arrivals : List Arrival) →
      Decidable (ExactRun requestsPerSecond burst bucket arrivals)
  | _, [] => inferInstanceAs (Decidable True)
  | bucket, arrival :: rest =>
      have := decidableExactRun requestsPerSecond burst
        (admitToken requestsPerSecond burst bucket arrival).2 rest
      inferInstanceAs (Decidable (_ ∨ _ ∧ _))

/-! ## One call -/

section Step

variable {requestsPerSecond burst : Nat} {bucket : TokenBucket} {arrival : Arrival} {level : Level}

/-- The bucket holds what the continuous one holds: its tokens, and what came in since. -/
structure Agrees (requestsPerSecond burst : Nat) (bucket : TokenBucket) (level : Level) : Prop where
  amount : level.amount = ((bucket.tokens * 1000000000 +
    (level.instant - bucket.refilledAt) * requestsPerSecond : Nat) : Int)
  tokens : bucket.tokens ≤ burst
  past : bucket.refilledAt ≤ level.instant

/-- The product of a time and a rate stays far below `u128::MAX`. -/
theorem refill_eq (slow : requestsPerSecond ≤ 10000) :
    refill requestsPerSecond bucket arrival =
      (arrival.read - bucket.refilledAt) * requestsPerSecond / 1000000000 := by
  have time : arrival.read - bucket.refilledAt < 2 ^ 64 * 1000000000 :=
    lt_of_le_of_lt (Nat.sub_le _ _) arrival.fits
  have product : (arrival.read - bucket.refilledAt) * requestsPerSecond ≤
      2 ^ 64 * 1000000000 * 10000 := Nat.mul_le_mul time.le slow
  have below : (arrival.read - bucket.refilledAt) * requestsPerSecond ≤ 2 ^ 128 - 1 :=
    le_trans product (by norm_num)
  rw [refill, min_eq_left below]

/-- A refill adds its tokens up to the burst. -/
theorem refilled_tokens (small : burst ≤ 100000) (n : Nat) :
    min (min (bucket.tokens + saturated n) (2 ^ 64 - 1)) burst = min (bucket.tokens + n) burst := by
  unfold saturated
  split <;> omega

/-- Where the refill fills the bucket, or where whole tokens came in and no more, it pays out what
the continuous bucket holds. -/
theorem exact_refill {unit tokens earned seen : Nat} (positive : 0 < unit) (more : earned ≤ seen)
    (exact_ : burst * unit ≤ tokens * unit + earned ∨
      (earned % unit = 0 ∧ seen / unit = earned / unit)) :
    min (burst * unit) (tokens * unit + earned) = min (tokens + seen / unit) burst * unit := by
  rcases exact_ with fills | ⟨whole, same⟩
  · have enough : burst ≤ tokens + seen / unit := by
      have missing : (burst - tokens) * unit ≤ seen := by
        rw [Nat.sub_mul]
        omega
      have quotient := (Nat.le_div_iff_mul_le positive).2 missing
      omega
    rw [min_eq_left fills, min_eq_right enough]
  · have parts : earned = earned / unit * unit := by
      have division := Nat.div_add_mod' earned unit
      omega
    rw [same]
    by_cases fits : tokens + earned / unit ≤ burst
    · have below := Nat.mul_le_mul_right unit fits
      rw [Nat.add_mul, ← parts] at below
      rw [min_eq_right below, min_eq_left fits, Nat.add_mul, ← parts]
    · have above := Nat.mul_le_mul_right unit (Nat.le_of_not_le fits)
      rw [Nat.add_mul, ← parts] at above
      rw [min_eq_left above, min_eq_right (Nat.le_of_not_le fits)]

/-- **What the bucket holds when an exact call comes**: after its refill it agrees with the
continuous bucket, and less than a token is still to come in. -/
theorem Agrees.atCall (slow : requestsPerSecond ≤ 10000) (small : burst ≤ 100000)
    (agrees : Agrees requestsPerSecond burst bucket level) (later : level.instant ≤ arrival.now)
    (exact_ : ExactArrival requestsPerSecond burst bucket arrival) :
    level.laterAmount (continuous requestsPerSecond burst) arrival.now =
        (((refilled requestsPerSecond burst bucket arrival).tokens * 1000000000 +
          (arrival.now - (refilled requestsPerSecond burst bucket arrival).refilledAt) *
            requestsPerSecond : Nat) : Int) ∧
      (refilled requestsPerSecond burst bucket arrival).tokens ≤ burst ∧
      (refilled requestsPerSecond burst bucket arrival).refilledAt ≤ arrival.now ∧
      (arrival.now - (refilled requestsPerSecond burst bucket arrival).refilledAt) *
        requestsPerSecond < 1000000000 := by
  have past := agrees.past
  have tokens := agrees.tokens
  have order := arrival.order
  have earnedLater : (level.instant - bucket.refilledAt) * requestsPerSecond +
      requestsPerSecond * (arrival.now - level.instant) =
        (arrival.now - bucket.refilledAt) * requestsPerSecond := by
    have sum : arrival.now - bucket.refilledAt =
        (level.instant - bucket.refilledAt) + (arrival.now - level.instant) := by omega
    rw [sum, Nat.add_mul, Nat.mul_comm requestsPerSecond]
  have amount : level.laterAmount (continuous requestsPerSecond burst) arrival.now =
      ((min (burst * 1000000000) (bucket.tokens * 1000000000 +
        (arrival.now - bucket.refilledAt) * requestsPerSecond) : Nat) : Int) := by
    unfold Level.laterAmount
    rw [agrees.amount, ← earnedLater]
    show min ((burst * 1000000000 : Nat) : Int) (_ + (requestsPerSecond : Int) * _) = _
    push_cast
    rw [Int.add_assoc]
  have seenMore : (arrival.now - bucket.refilledAt) * requestsPerSecond ≤
      (arrival.read - bucket.refilledAt) * requestsPerSecond :=
    Nat.mul_le_mul_right _ (by omega)
  rw [amount]
  by_cases fraction : (arrival.read - bucket.refilledAt) * requestsPerSecond < 1000000000
  · -- nothing is refilled: what came in stays a fraction of a token
    have none : refill requestsPerSecond bucket arrival = 0 := by
      rw [refill_eq slow]
      exact Nat.div_eq_of_lt fraction
    have same : refilled requestsPerSecond burst bucket arrival = bucket := by
      simp [refilled, none]
    rw [same]
    refine ⟨?_, tokens, by omega, by omega⟩
    by_cases isFull : bucket.tokens = burst
    · have nothing : (arrival.now - bucket.refilledAt) * requestsPerSecond = 0 :=
        exact_.idle fraction isFull
      rw [nothing, isFull]
      simp
    · rw [min_eq_right (by omega)]
  · -- whole tokens are refilled, and the time counts from the call on
    have tokensIn : refill requestsPerSecond bucket arrival =
        (arrival.read - bucket.refilledAt) * requestsPerSecond / 1000000000 := refill_eq slow
    have some : 0 < refill requestsPerSecond bucket arrival := by
      rw [tokensIn]
      omega
    have next : refilled requestsPerSecond burst bucket arrival =
        ⟨min (bucket.tokens + refill requestsPerSecond bucket arrival) burst, arrival.now⟩ := by
      simp only [refilled, some, if_true, refilled_tokens small]
    rw [next, tokensIn]
    dsimp only
    rw [Nat.sub_self, Nat.zero_mul, Nat.add_zero]
    refine ⟨?_, min_le_right _ _, le_refl _, by omega⟩
    rw [exact_refill (by omega) seenMore (exact_.whole (Nat.le_of_not_lt fraction))]

/-- **An exact call**: it is admitted exactly where a whole token is there, and leaves the bucket
in agreement with the continuous one. -/
theorem Agrees.step (slow : requestsPerSecond ≤ 10000) (small : burst ≤ 100000)
    (agrees : Agrees requestsPerSecond burst bucket level) (later : level.instant ≤ arrival.now)
    (exact_ : ExactArrival requestsPerSecond burst bucket arrival) :
    ((admitToken requestsPerSecond burst bucket arrival).1 = true ↔
      (1000000000 : Int) ≤ level.laterAmount (continuous requestsPerSecond burst) arrival.now) ∧
    Agrees requestsPerSecond burst (admitToken requestsPerSecond burst bucket arrival).2
      (level.after (continuous requestsPerSecond burst)
        ⟨arrival.now, (admitToken requestsPerSecond burst bucket arrival).1⟩) := by
  obtain ⟨amount, tokens, past, fraction⟩ := agrees.atCall slow small later exact_
  unfold admitToken
  dsimp only
  by_cases empty : (refilled requestsPerSecond burst bucket arrival).tokens = 0
  · rw [if_pos empty]
    refine ⟨?_, ⟨?_, tokens, past⟩⟩
    · rw [amount, empty]
      simp only [Bool.false_eq_true, false_iff]
      omega
    · show level.laterAmount (continuous requestsPerSecond burst) arrival.now -
        ((if false = true then 1000000000 else 0 : Nat) : Int) = _
      rw [amount, if_neg (by decide), Nat.cast_zero, Int.sub_zero]
      rfl
  · rw [if_neg empty]
    refine ⟨?_, ⟨?_, ?_, past⟩⟩
    · rw [amount]
      simp only [true_iff]
      omega
    · show level.laterAmount (continuous requestsPerSecond burst) arrival.now -
        ((if true = true then 1000000000 else 0 : Nat) : Int) = _
      rw [amount, if_pos rfl]
      show _ = ((((refilled requestsPerSecond burst bucket arrival).tokens - 1) * 1000000000 +
        (arrival.now - (refilled requestsPerSecond burst bucket arrival).refilledAt) *
          requestsPerSecond : Nat) : Int)
      omega
    · show (refilled requestsPerSecond burst bucket arrival).tokens - 1 ≤ burst
      omega

/-- A refill takes nothing away. -/
theorem le_refilled (small : burst ≤ 100000) (within : bucket.tokens ≤ burst) :
    bucket.tokens ≤ (refilled requestsPerSecond burst bucket arrival).tokens ∧
      (refilled requestsPerSecond burst bucket arrival).tokens ≤ burst := by
  unfold refilled
  dsimp only
  split
  · dsimp only
    rw [refilled_tokens small]
    omega
  · exact ⟨le_refl _, within⟩

end Step

/-! ## Whole runs -/

/-- **No more calls than there are tokens** are all admitted and paid for, exact or not. -/
theorem admits_tokens {requestsPerSecond burst : Nat} (small : burst ≤ 100000)
    (arrivals : List Arrival) :
    ∀ (bucket : TokenBucket) (level : Level) (instant : Nat), level.instant ≤ instant →
      arrivals.length ≤ bucket.tokens → bucket.tokens ≤ burst →
      (arrivals.length : Int) * 1000000000 ≤ level.amount → InOrder instant arrivals →
      Ordered level.instant (decided (admitToken requestsPerSecond burst) bucket arrivals) ∧
      Paid (continuous requestsPerSecond burst) level
        (decided (admitToken requestsPerSecond burst) bucket arrivals) ∧
      Fair (continuous requestsPerSecond burst) level
        (decided (admitToken requestsPerSecond burst) bucket arrivals) := by
  induction arrivals with
  | nil =>
      intro bucket level instant _ _ _ _ _
      exact ⟨trivial, trivial, trivial⟩
  | cons arrival rest ih =>
      intro bucket level instant before few within held inOrder
      have later : level.instant ≤ arrival.now := le_trans before inOrder.1
      obtain ⟨kept, stays⟩ := @le_refilled requestsPerSecond burst bucket arrival small within
      rw [List.length_cons] at few held
      have admits : admitToken requestsPerSecond burst bucket arrival =
          (true, { refilled requestsPerSecond burst bucket arrival with
            tokens := (refilled requestsPerSecond burst bucket arrival).tokens - 1 }) := by
        unfold admitToken
        dsimp only
        rw [if_neg (by omega)]
      have capacity : ((continuous requestsPerSecond burst).capacity : Int) =
          ((burst * 1000000000 : Nat) : Int) := rfl
      have enough : (rest.length : Int) * 1000000000 + 1000000000 ≤
          level.laterAmount (continuous requestsPerSecond burst) arrival.now := by
        unfold Level.laterAmount
        rw [capacity]
        have flows : (0 : Int) ≤ ((continuous requestsPerSecond burst).rate : Int) *
            ((arrival.now - level.instant : Nat) : Int) :=
          mul_nonneg (Int.natCast_nonneg _) (Int.natCast_nonneg _)
        push_cast at held
        exact le_min (by omega) (by omega)
      have fewLeft : rest.length ≤
          (refilled requestsPerSecond burst bucket arrival).tokens - 1 := by omega
      have staysLeft : (refilled requestsPerSecond burst bucket arrival).tokens - 1 ≤ burst := by
        omega
      unfold decided
      rw [admits]
      dsimp only
      have left : (rest.length : Int) * 1000000000 ≤
          (level.after (continuous requestsPerSecond burst) ⟨arrival.now, true⟩).amount :=
        le_of_le_of_eq (le_sub_iff_add_le.2 enough) (by simp [Level.after, continuous])
      obtain ⟨ordered, paid, fair⟩ := ih
        { refilled requestsPerSecond burst bucket arrival with
          tokens := (refilled requestsPerSecond burst bucket arrival).tokens - 1 }
        (level.after (continuous requestsPerSecond burst) ⟨arrival.now, true⟩) arrival.read
        arrival.order fewLeft staysLeft left inOrder.2
      have price : ((continuous requestsPerSecond burst).unit : Int) = 1000000000 := rfl
      have nonneg : (0 : Int) ≤ (rest.length : Int) * 1000000000 :=
        Int.mul_nonneg (Int.natCast_nonneg _) (by decide)
      have payable : ((continuous requestsPerSecond burst).unit : Int) ≤
          level.laterAmount (continuous requestsPerSecond burst) arrival.now :=
        le_of_eq_of_le price (by linarith only [nonneg, enough])
      refine ⟨⟨later, ordered⟩, ⟨fun _ => payable, paid⟩, ⟨fun never => ?_, fair⟩⟩
      cases never

/-- **The calls of an exact run are paid for, and none of them is refused that could be.** -/
theorem Agrees.run {requestsPerSecond burst : Nat} (slow : requestsPerSecond ≤ 10000)
    (small : burst ≤ 100000) (arrivals : List Arrival) :
    ∀ (bucket : TokenBucket) (level : Level) (instant : Nat), level.instant ≤ instant →
      Agrees requestsPerSecond burst bucket level → InOrder instant arrivals →
      ExactRun requestsPerSecond burst bucket arrivals →
      Ordered level.instant (decided (admitToken requestsPerSecond burst) bucket arrivals) ∧
      Paid (continuous requestsPerSecond burst) level
        (decided (admitToken requestsPerSecond burst) bucket arrivals) ∧
      Fair (continuous requestsPerSecond burst) level
        (decided (admitToken requestsPerSecond burst) bucket arrivals) := by
  induction arrivals with
  | nil =>
      intro bucket level instant _ _ _ _
      exact ⟨trivial, trivial, trivial⟩
  | cons arrival rest ih =>
      intro bucket level instant before agrees inOrder exactRun
      have later : level.instant ≤ arrival.now := le_trans before inOrder.1
      obtain few | ⟨exact_, exactRun⟩ := exactRun
      · refine admits_tokens small (arrival :: rest) bucket level instant before few agrees.tokens ?_
          inOrder
        rw [agrees.amount, List.length_cons]
        omega
      obtain ⟨decides, next⟩ := agrees.step slow small later exact_
      obtain ⟨ordered, paid, fair⟩ :=
        ih _ _ arrival.read arrival.order next inOrder.2 exactRun
      refine ⟨⟨later, ordered⟩, ⟨decides.1, paid⟩, ⟨?_, fair⟩⟩
      intro (refused : (admitToken requestsPerSecond burst bucket arrival).1 = false)
      by_contra enough
      rw [not_lt] at enough
      have admitted := decides.2 enough
      rw [refused] at admitted
      cases admitted

/-- An exact run from a new limiter. -/
theorem limited_of_exact {requestsPerSecond burst created : Nat} (slow : requestsPerSecond ≤ 10000)
    (small : burst ≤ 100000) {arrivals : List Arrival} (inOrder : InOrder created arrivals)
    (exactRun : ExactRun requestsPerSecond burst ⟨burst, created⟩ arrivals) :
    Limited requestsPerSecond burst created
      (decided (admitToken requestsPerSecond burst) ⟨burst, created⟩ arrivals) := by
  have start : Agrees requestsPerSecond burst ⟨burst, created⟩ (full burst created) := by
    refine ⟨?_, le_refl _, le_refl _⟩
    show ((burst * 1000000000 : Nat) : Int) =
      ((burst * 1000000000 + (created - created) * requestsPerSecond : Nat) : Int)
    rw [Nat.sub_self, Nat.zero_mul, Nat.add_zero]
  obtain ⟨ordered, paid, fair⟩ := Agrees.run slow small arrivals _ (full burst created) created
    (le_refl _) start inOrder exactRun
  refine ⟨fun from_ length => ?_, fair⟩
  exact window_bound (show 0 ≤ (full burst created).amount from Int.natCast_nonneg _) (le_refl _) ordered paid
    from_ length

theorem ApiRateLimitPolicy.bounds {policy : ApiRateLimitPolicy} (valid : policy.isValid = true) :
    policy.requestsPerSecond ≤ 10000 ∧ policy.burst ≤ 100000 := by
  simp only [ApiRateLimitPolicy.isValid, Bool.and_eq_true, decide_eq_true_eq] at valid
  omega

theorem PublicDeliveryPolicy.bounds {policy : PublicDeliveryPolicy}
    (valid : policy.isValid = true) : policy.requestsPerSecond ≤ 10000 ∧ policy.burst ≤ 100000 := by
  simp only [PublicDeliveryPolicy.isValid, Bool.and_eq_true, decide_eq_true_eq] at valid
  omega

/-- **Where the two limiters limit exactly.**  In every run whose calls are exact until no more are
left than the bucket holds tokens, a window admits no more than the burst and the rate allow, and no
call is refused that a token was there for. -/
theorem limiters_exact (created : Nat) (arrivals : List Arrival)
    (inOrder : InOrder created arrivals) :
    (∀ policy : ApiRateLimitPolicy, policy.isValid = true →
      ExactRun policy.requestsPerSecond policy.burst (ApiRateLimiter.new policy created) arrivals →
      Limited policy.requestsPerSecond policy.burst created
        (decided (ApiRateLimiter.admitToken policy) (ApiRateLimiter.new policy created) arrivals)) ∧
    (∀ policy : PublicDeliveryPolicy, policy.isValid = true →
      ExactRun policy.requestsPerSecond policy.burst (PublicDeliveryLimiter.new policy created)
        arrivals →
      Limited policy.requestsPerSecond policy.burst created
        (decided (PublicDeliveryLimiter.admitRequest policy) (PublicDeliveryLimiter.new policy created)
          arrivals)) := by
  constructor
  · intro policy valid exactRun
    obtain ⟨slow, small⟩ := ApiRateLimitPolicy.bounds valid
    exact limited_of_exact slow small inOrder exactRun
  · intro policy valid exactRun
    obtain ⟨slow, small⟩ := PublicDeliveryPolicy.bounds valid
    exact limited_of_exact slow small inOrder exactRun

/-- A call whose two readings of the clock agree, so many milliseconds after the start. -/
def arrivalAt (milliseconds : Nat) (early : milliseconds < 2 ^ 64) : Arrival :=
  ⟨milliseconds * 1000000, milliseconds * 1000000, le_refl _, by omega⟩

/-- A public policy of 50 requests a second and a burst of 100. -/
def samplePublicPolicy : PublicDeliveryPolicy where
  tokenMaxTtl := ⟨300 * 1000000000, by norm_num⟩
  requestsPerSecond := 50
  burst := 100
  maxInFlight := 64

/-- Calls every 20 milliseconds, which are worth a token each, and two that come in between. -/
def steadyCalls : List Arrival :=
  [arrivalAt 0 (by norm_num), arrivalAt 20 (by norm_num), arrivalAt 40 (by norm_num),
    arrivalAt 47 (by norm_num), arrivalAt 61 (by norm_num)]

theorem limiters_exact_steady :
    Limited 50 100 0 (decided (ApiRateLimiter.admitToken .default)
      (ApiRateLimiter.new .default 0) steadyCalls) ∧
    Limited 50 100 0 (decided (PublicDeliveryLimiter.admitRequest samplePublicPolicy)
      (PublicDeliveryLimiter.new samplePublicPolicy 0) steadyCalls) :=
  ⟨(limiters_exact 0 steadyCalls (by decide)).1 .default (by decide) (by decide),
    (limiters_exact 0 steadyCalls (by decide)).2 samplePublicPolicy (by decide) (by decide)⟩

/-- One request a second, and a burst of so many. -/
def slowPolicy (burst : Nat) : ApiRateLimitPolicy := ⟨1, burst, 1⟩

/-- Two calls at once, one after 1.9 seconds and one after 2.1. -/
def lostFraction : List Arrival :=
  [arrivalAt 0 (by norm_num), arrivalAt 0 (by norm_num), arrivalAt 1900 (by norm_num),
    arrivalAt 2100 (by norm_num)]

/-- A call after 0.9 seconds and one a tenth of a second later. -/
def keptFraction : List Arrival := [arrivalAt 900 (by norm_num), arrivalAt 1000 (by norm_num)]

/-- **The limiter is off both ways.**  With a burst of two the call after 2.1 seconds is refused,
though 1.1 tokens are there: the refill before it dropped 0.9 of a token.  With a burst of one
two calls are let through within a tenth of a second: what came in while the bucket was full
was kept. -/
theorem limiter_inexact :
    ((slowPolicy 2).isValid = true ∧ InOrder 0 lostFraction ∧
      ¬ Limited 1 2 0 (decided (ApiRateLimiter.admitToken (slowPolicy 2))
        (ApiRateLimiter.new (slowPolicy 2) 0) lostFraction)) ∧
    ((slowPolicy 1).isValid = true ∧ InOrder 0 keptFraction ∧
      ¬ Limited 1 1 0 (decided (ApiRateLimiter.admitToken (slowPolicy 1))
        (ApiRateLimiter.new (slowPolicy 1) 0) keptFraction)) := by
  refine ⟨⟨by decide, by decide, ?_⟩, ⟨by decide, by decide, ?_⟩⟩
  · intro limited
    exact absurd limited.lower (by decide)
  · intro limited
    exact absurd (limited.upper 900000000 100000000) (by decide)

end MediaBooster.Api
