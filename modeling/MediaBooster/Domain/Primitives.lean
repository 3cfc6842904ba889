/-
# Domain.Primitives -- machine integers, instants and text checks

The scalar types the store and the services are written with: `i64` columns and
their checked conversions, `OffsetDateTime` and `Duration` to the nanosecond,
and the byte predicates that every textual parameter is checked with.

Rust's `str::len` counts UTF-8 bytes (`String.utf8ByteSize`).  A check
`value.bytes().all(p)` whose `p` holds of ASCII bytes only is the same check on
the characters, because a character outside ASCII has no byte below `0x80`.
-/
import Mathlib.Algebra.Group.Int.Defs
import Mathlib.Algebra.Group.Nat.Defs
import Mathlib.Data.Int.Order.Basic
import Mathlib.Data.Nat.Basic
import Mathlib.Data.List.Basic

namespace MediaBooster.Domain

set_option autoImplicit false

/-! ## `i64` -/

/-- `i64::MAX`. -/
def i64Max : Int := 9223372036854775807

/-- `i64::MIN`. -/
def i64Min : Int := -9223372036854775808

/-- `i64::try_from` of an unsigned value. -/
def i64TryFrom (value : Nat) : Option Int :=
  if (value : Int) ≤ i64Max then some value else none

/-- `i64::checked_add`. -/
def i64CheckedAdd (a b : Int) : Option Int :=
  if i64Min ≤ a + b ∧ a + b ≤ i64Max then some (a + b) else none

/-- `u64::checked_add`. -/
def u64CheckedAdd (a b : Nat) : Option Nat :=
  if a + b < 2 ^ 64 then some (a + b) else none

/-- `u64::checked_mul`. -/
def u64CheckedMul (a b : Nat) : Option Nat :=
  if a * b < 2 ^ 64 then some (a * b) else none

/-- `u64::try_from` of a stored integer.  A `usize` has the same 64 bits. -/
def u64TryFrom (value : Int) : Option Nat :=
  if 0 ≤ value ∧ value < 2 ^ 64 then some value.toNat else none

/-- `u32::try_from` of a stored integer. -/
def u32TryFrom (value : Int) : Option Nat :=
  if 0 ≤ value ∧ value < 2 ^ 32 then some value.toNat else none

/-- `u16::try_from` of a stored integer. -/
def u16TryFrom (value : Int) : Option Nat :=
  if 0 ≤ value ∧ value < 2 ^ 16 then some value.toNat else none

/-- `u8::try_from` of a stored integer. -/
def u8TryFrom (value : Int) : Option Nat :=
  if 0 ≤ value ∧ value < 2 ^ 8 then some value.toNat else none

theorem i64TryFrom_eq_some {value : Nat} {stored : Int} :
    i64TryFrom value = some stored ↔ stored = value ∧ (value : Int) ≤ i64Max := by
  unfold i64TryFrom
  split <;> simp_all [eq_comm]

theorem i64CheckedAdd_eq_some {a b sum : Int} :
    i64CheckedAdd a b = some sum ↔ sum = a + b ∧ i64Min ≤ a + b ∧ a + b ≤ i64Max := by
  unfold i64CheckedAdd
  split <;> simp_all [eq_comm]

theorem u64CheckedAdd_eq_some {a b sum : Nat} :
    u64CheckedAdd a b = some sum ↔ sum = a + b ∧ a + b < 2 ^ 64 := by
  unfold u64CheckedAdd
  split <;> simp_all [eq_comm]

theorem u64CheckedMul_eq_some {a b product : Nat} :
    u64CheckedMul a b = some product ↔ product = a * b ∧ a * b < 2 ^ 64 := by
  unfold u64CheckedMul
  split <;> simp_all [eq_comm]

theorem u64TryFrom_eq_some {value : Int} {n : Nat} :
    u64TryFrom value = some n ↔ value = n ∧ n < 2 ^ 64 := by
  unfold u64TryFrom
  split
  · simp only [Option.some.injEq]
    omega
  · simp only [reduceCtorEq, false_iff]
    omega

theorem u32TryFrom_eq_some {value : Int} {n : Nat} :
    u32TryFrom value = some n ↔ value = n ∧ n < 2 ^ 32 := by
  unfold u32TryFrom
  split
  · simp only [Option.some.injEq]
    omega
  · simp only [reduceCtorEq, false_iff]
    omega

theorem u16TryFrom_eq_some {value : Int} {n : Nat} :
    u16TryFrom value = some n ↔ value = n ∧ n < 2 ^ 16 := by
  unfold u16TryFrom
  split
  · simp only [Option.some.injEq]
    omega
  · simp only [reduceCtorEq, false_iff]
    omega

theorem u8TryFrom_eq_some {value : Int} {n : Nat} :
    u8TryFrom value = some n ↔ value = n ∧ n < 2 ^ 8 := by
  unfold u8TryFrom
  split
  · simp only [Option.some.injEq]
    omega
  · simp only [reduceCtorEq, false_iff]
    omega

/-! ## Instants -/

/-- The first second an `OffsetDateTime` can stand for: the start of year -9999. -/
def minUnixTimestamp : Int := -377705116800

/-- The last second an `OffsetDateTime` can stand for: the end of year 9999. -/
def maxUnixTimestamp : Int := 253402300799

/-- `time::OffsetDateTime` in UTC, in nanoseconds since the Unix epoch. -/
@[ext] structure OffsetDateTime where
  unixNanos : Int
  lower : minUnixTimestamp * 1000000000 ≤ unixNanos
  upper : unixNanos < (maxUnixTimestamp + 1) * 1000000000
deriving DecidableEq

namespace OffsetDateTime

instance : LE OffsetDateTime := ⟨fun a b => a.unixNanos ≤ b.unixNanos⟩

instance : LT OffsetDateTime := ⟨fun a b => a.unixNanos < b.unixNanos⟩

instance (a b : OffsetDateTime) : Decidable (a ≤ b) := inferInstanceAs (Decidable (_ ≤ _))

instance (a b : OffsetDateTime) : Decidable (a < b) := inferInstanceAs (Decidable (_ < _))

theorem le_def {a b : OffsetDateTime} : a ≤ b ↔ a.unixNanos ≤ b.unixNanos := Iff.rfl

theorem lt_def {a b : OffsetDateTime} : a < b ↔ a.unixNanos < b.unixNanos := Iff.rfl

/-- `OffsetDateTime::unix_timestamp`: whole seconds, rounded down. -/
def unixTimestamp (t : OffsetDateTime) : Int := t.unixNanos / 1000000000

/-- `OffsetDateTime::from_unix_timestamp`. -/
def fromUnixTimestamp (seconds : Int) : Option OffsetDateTime :=
  if within : minUnixTimestamp ≤ seconds ∧ seconds ≤ maxUnixTimestamp then
    some ⟨seconds * 1000000000, by omega, by omega⟩
  else none

/-- `OffsetDateTime::checked_add` of whole seconds. -/
def checkedAddSeconds (t : OffsetDateTime) (seconds : Int) : Option OffsetDateTime :=
  if within : minUnixTimestamp * 1000000000 ≤ t.unixNanos + seconds * 1000000000 ∧
      t.unixNanos + seconds * 1000000000 < (maxUnixTimestamp + 1) * 1000000000 then
    some ⟨t.unixNanos + seconds * 1000000000, within.1, within.2⟩
  else none

theorem checkedAddSeconds_eq_some {t t' : OffsetDateTime} {seconds : Int}
    (added : t.checkedAddSeconds seconds = some t') :
    t'.unixNanos = t.unixNanos + seconds * 1000000000 ∧
      t'.unixTimestamp = t.unixTimestamp + seconds := by
  simp only [checkedAddSeconds] at added
  split at added
  · cases added
    refine ⟨rfl, ?_⟩
    simp only [unixTimestamp]
    omega
  · cases added

theorem checkedAddSeconds_isSome (t : OffsetDateTime) {seconds : Int} (nonneg : 0 ≤ seconds)
    (fits : t.unixTimestamp + seconds ≤ maxUnixTimestamp) :
    ∃ t', t.checkedAddSeconds seconds = some t' := by
  have lower := t.lower
  simp only [unixTimestamp] at fits
  simp only [checkedAddSeconds]
  rw [dif_pos ⟨by omega, by omega⟩]
  exact ⟨_, rfl⟩

theorem unixTimestamp_mono {a b : OffsetDateTime} (le : a ≤ b) :
    a.unixTimestamp ≤ b.unixTimestamp := by
  rw [le_def] at le
  unfold unixTimestamp
  omega

theorem unixTimestamp_bounds (t : OffsetDateTime) :
    minUnixTimestamp ≤ t.unixTimestamp ∧ t.unixTimestamp ≤ maxUnixTimestamp := by
  have lower := t.lower
  have upper := t.upper
  unfold unixTimestamp
  omega

theorem fromUnixTimestamp_eq_some {seconds : Int} {t : OffsetDateTime}
    (parsed : fromUnixTimestamp seconds = some t) : t.unixTimestamp = seconds := by
  unfold fromUnixTimestamp at parsed
  split at parsed
  · cases parsed
    simp only [unixTimestamp]
    omega
  · cases parsed

/-- A parsed instant is a whole second: comparing with it is comparing seconds. -/
theorem lt_fromUnixTimestamp {seconds : Int} {instant t : OffsetDateTime}
    (parsed : fromUnixTimestamp seconds = some t) :
    instant < t ↔ instant.unixTimestamp < seconds := by
  unfold fromUnixTimestamp at parsed
  split at parsed
  · cases parsed
    simp only [lt_def, unixTimestamp]
    omega
  · cases parsed

theorem fromUnixTimestamp_of_within {seconds : Int} (lower : minUnixTimestamp ≤ seconds)
    (upper : seconds ≤ maxUnixTimestamp) :
    ∃ t, fromUnixTimestamp seconds = some t ∧ t.unixTimestamp = seconds := by
  have within : minUnixTimestamp ≤ seconds ∧ seconds ≤ maxUnixTimestamp := ⟨lower, upper⟩
  refine ⟨⟨seconds * 1000000000, by omega, by omega⟩, ?_, ?_⟩
  · rw [fromUnixTimestamp, dif_pos within]
  · simp only [unixTimestamp]
    omega

end OffsetDateTime

/-- `std::time::Duration`, in nanoseconds. -/
@[ext] structure Duration where
  nanos : Nat
  upper : nanos < 2 ^ 64 * 1000000000
deriving DecidableEq

namespace Duration

instance : LT Duration := ⟨fun a b => a.nanos < b.nanos⟩

instance (a b : Duration) : Decidable (a < b) := inferInstanceAs (Decidable (_ < _))

/-- `Duration::from_secs`. -/
def fromSecs (seconds : Nat) (fits : seconds < 2 ^ 64) : Duration :=
  ⟨seconds * 1000000000, by omega⟩

/-- `Duration::as_secs`: whole seconds, rounded down. -/
def asSecs (d : Duration) : Nat := d.nanos / 1000000000

/-- `Duration::is_zero`. -/
def isZero (d : Duration) : Bool := d.nanos == 0

end Duration

namespace OffsetDateTime

/-- The instant so many nanoseconds away, where the type can stand for it. -/
def shifted (t : OffsetDateTime) (nanos : Int) : Option OffsetDateTime :=
  if within : minUnixTimestamp * 1000000000 ≤ t.unixNanos + nanos ∧
      t.unixNanos + nanos < (maxUnixTimestamp + 1) * 1000000000 then
    some ⟨t.unixNanos + nanos, within.1, within.2⟩
  else none

/-- `t + duration`, which leaves the range of the type only in the years around ±9999. -/
def plus (t : OffsetDateTime) (duration : Duration) : Option OffsetDateTime :=
  t.shifted duration.nanos

/-- `t - duration`. -/
def minus (t : OffsetDateTime) (duration : Duration) : Option OffsetDateTime :=
  t.shifted (-duration.nanos)

theorem minus_eq_some {t earlier : OffsetDateTime} {duration : Duration}
    (subtracted : t.minus duration = some earlier) :
    earlier.unixNanos = t.unixNanos - duration.nanos := by
  unfold minus shifted at subtracted
  split at subtracted
  · cases subtracted
    show t.unixNanos + -duration.nanos = _
    omega
  · cases subtracted

end OffsetDateTime

/-! ## Text -/

/-- `u8::is_ascii_digit`. -/
def isAsciiDigit (c : Char) : Bool := decide ('0' ≤ c) && decide (c ≤ '9')

theorem isAsciiDigit_of_isDigit {c : Char} (digit : c.isDigit = true) : isAsciiDigit c = true := by
  unfold Char.isDigit at digit
  rw [Bool.and_eq_true, decide_eq_true_eq, decide_eq_true_eq] at digit
  unfold isAsciiDigit
  rw [Bool.and_eq_true, decide_eq_true_eq, decide_eq_true_eq]
  exact digit

/-- `u8::is_ascii_uppercase`. -/
def isAsciiUppercase (c : Char) : Bool := decide ('A' ≤ c) && decide (c ≤ 'Z')

/-- `u8::is_ascii_lowercase`. -/
def isAsciiLowercase (c : Char) : Bool := decide ('a' ≤ c) && decide (c ≤ 'z')

/-- `u8::is_ascii_alphanumeric`. -/
def isAsciiAlphanumeric (c : Char) : Bool :=
  isAsciiDigit c || isAsciiUppercase c || isAsciiLowercase c

/-- `u8::is_ascii_graphic`. -/
def isAsciiGraphic (c : Char) : Bool := decide ('!' ≤ c) && decide (c ≤ '~')

/-- `value.bytes().all(p)` for a `p` that holds of ASCII bytes only. -/
def allChars (p : Char → Bool) (value : String) : Bool := value.toList.all p

/-- A non-empty token of at most `maxLen` letters, digits, `-` and `_`. -/
def narrowToken (value : String) (maxLen : Nat) : Bool :=
  !value.isEmpty && decide (value.utf8ByteSize ≤ maxLen) &&
    allChars (fun c => isAsciiAlphanumeric c || c == '-' || c == '_') value

/-- A non-empty error code of at most 64 capitals, digits and `_`. -/
def errorCodeToken (value : String) : Bool :=
  !value.isEmpty && decide (value.utf8ByteSize ≤ 64) &&
    allChars (fun c => isAsciiUppercase c || isAsciiDigit c || c == '_') value

/-- The 64 lower-case hexadecimal digits of a SHA-256 digest. -/
def sha256Token (value : String) : Bool :=
  value.utf8ByteSize == 64 &&
    allChars (fun c => isAsciiDigit c || (decide ('a' ≤ c) && decide (c ≤ 'f'))) value

/-- A media type of visible ASCII characters, at most 255 bytes long. -/
def contentTypeToken (value : String) : Bool :=
  !value.isEmpty && decide (value.utf8ByteSize ≤ 255) && allChars isAsciiGraphic value

end MediaBooster.Domain
