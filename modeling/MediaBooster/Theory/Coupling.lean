/-
# Theory.Coupling -- two runs of one call

A call gives nothing away when states that look alike to its caller make it answer alike.  That is
a property of two runs: `Call.Couples R R' call` holds when from states related by `R` the call
gives one answer and leaves states related by `R'`, and `Tx.Couples` is the same for a transaction,
which may also fail in both states with one error.

There is one rule for each way a call is put together.  What a condition or a query reads has to
be the same in related states, and what was read is known afterwards; nothing else is asked.
-/
import MediaBooster.Theory.Transaction

namespace MediaBooster.Theory.Transaction

set_option autoImplicit false

variable {σ α β ε δ : Type}

/-! ## Transactions -/

/-- Two outcomes of a transaction: one error, or one value and states related under it. -/
inductive Alike (R : α → σ → σ → Prop) : Except ε (α × σ) → Except ε (α × σ) → Prop
  | done {value : α} {t t' : σ} (related : R value t t') : Alike R (.ok (value, t)) (.ok (value, t'))
  | failed (error : ε) : Alike R (.error error) (.error error)

/-- A weaker relation, for outcomes that are what they are. -/
theorem Alike.mono {R Q : α → σ → σ → Prop} {outcome outcome' : Except ε (α × σ)}
    (alike : Alike R outcome outcome')
    (both : ∀ value t t', outcome = .ok (value, t) → outcome' = .ok (value, t') → R value t t' →
      Q value t t') : Alike Q outcome outcome' := by
  cases alike with
  | done related => exact .done (both _ _ _ rfl rfl related)
  | failed error => exact .failed error

namespace Tx

/-- Two runs of the transaction from related states end alike. -/
def Couples (R : σ → σ → Prop) (R' : α → σ → σ → Prop) (body : Tx σ ε α) : Prop :=
  ∀ s s', R s s' → Alike R' (body s) (body s')

variable {R : σ → σ → Prop}

theorem couples_pure {value : α} {R' : α → σ → σ → Prop} (related : ∀ s s', R s s' → R' value s s') :
    Couples R R' (pure value : Tx σ ε α) :=
  fun s s' holds => .done (related s s' holds)

theorem bind_of_ok {body : Tx σ ε α} {next : α → Tx σ ε β} {s t : σ} {value : α}
    (ran : body s = .ok (value, t)) : (body >>= next) s = next value t := by
  show StateT.bind body next s = _
  unfold StateT.bind
  rw [ran]
  rfl

theorem bind_of_error {body : Tx σ ε α} {next : α → Tx σ ε β} {s : σ} {error : ε}
    (failed : body s = .error error) : (body >>= next) s = .error error := by
  show StateT.bind body next s = _
  unfold StateT.bind
  rw [failed]
  rfl

theorem couples_bind {body : Tx σ ε α} {next : α → Tx σ ε β} {Q : α → σ → σ → Prop}
    {R' : β → σ → σ → Prop} (first : body.Couples R Q)
    (rest : ∀ value, (next value).Couples (Q value) R') : Couples R R' (body >>= next) := by
  intro s s' related
  have alike := first s s' related
  cases ran : body s with
  | ok outcome =>
      cases ran' : body s' with
      | ok outcome' =>
          rw [ran, ran'] at alike
          cases alike with
          | done after =>
              rw [bind_of_ok ran, bind_of_ok ran']
              exact rest _ _ _ after
      | error => rw [ran, ran'] at alike; cases alike
  | error =>
      cases ran' : body s' with
      | ok => rw [ran, ran'] at alike; cases alike
      | error =>
          rw [ran, ran'] at alike
          cases alike with
          | failed error =>
              rw [bind_of_error ran, bind_of_error ran']
              exact .failed _

theorem couples_ensure_bind {condition : Bool} {error : ε} {next : Unit → Tx σ ε β}
    {R' : β → σ → σ → Prop} (rest : condition = true → (next ()).Couples R R') :
    Couples R R' (ensure condition error >>= next) := by
  cases condition with
  | true => exact rest rfl
  | false => exact fun _ _ _ => .failed error

theorem couples_okOr_bind {value : Option α} {error : ε} {next : α → Tx σ ε β}
    {R' : β → σ → σ → Prop} (rest : ∀ a, value = some a → (next a).Couples R R') :
    Couples R R' (okOr value error >>= next) := by
  cases value with
  | some a => exact rest a rfl
  | none => exact fun _ _ _ => .failed error

/-- A query that reads the same in related states; what it read is known from then on. -/
theorem couples_select_bind {query : σ → α} {next : α → Tx σ ε β} {R' : β → σ → σ → Prop}
    (same : ∀ s s', R s s' → query s = query s')
    (rest : ∀ value, (next value).Couples
      (fun s s' => R s s' ∧ query s = value ∧ query s' = value) R') :
    Couples R R' (select query >>= next) := by
  intro s s' related
  have ran : (select query : Tx σ ε α) s' = .ok (query s, s') := by
    rw [same s s' related]
    rfl
  rw [bind_of_ok (rfl : (select query : Tx σ ε α) s = .ok (query s, s)), bind_of_ok ran]
  exact rest (query s) s s' ⟨related, rfl, (same s s' related).symm⟩

theorem couples_execute {refuse : δ → ε} {statement : σ → Except δ (α × σ)} {R' : α → σ → σ → Prop}
    (alike : ∀ s s', R s s' → Alike R' (statement s) (statement s')) :
    Couples R R' (execute refuse statement) := by
  intro s s' related
  have both := alike s s' related
  show Alike R' ((statement s).mapError refuse) ((statement s').mapError refuse)
  generalize statement s = outcome at both ⊢
  generalize statement s' = outcome' at both ⊢
  cases both with
  | done related => exact .done related
  | failed error => exact .failed (refuse error)

theorem couples_ite {P : Prop} [Decidable P] {yes no : Tx σ ε α} {R' : α → σ → σ → Prop}
    (onYes : P → yes.Couples R R') (onNo : ¬ P → no.Couples R R') :
    Couples R R' (if P then yes else no) := by
  split
  · rename_i holds
    exact onYes holds
  · rename_i fails
    exact onNo fails

end Tx

/-! ## Calls -/

/-- Two runs of the call from related states give one answer and leave related states. -/
def Call.Couples (R R' : σ → σ → Prop) (call : Call σ ε α) : Prop :=
  ∀ s s', R s s' → (call s).1 = (call s').1 ∧ R' (call s).2 (call s').2

namespace Call

variable {R R' : σ → σ → Prop}

theorem couples_pure (value : α) : Couples R R (pure value : Call σ ε α) :=
  fun _ _ related => ⟨rfl, related⟩

theorem couples_read {query : σ → α} (same : ∀ s s', R s s' → query s = query s') :
    Couples R R (read query : Call σ ε α) :=
  fun s s' related => ⟨congrArg Except.ok (same s s' related), related⟩

theorem couples_readOr {query : σ → Except ε α} (same : ∀ s s', R s s' → query s = query s') :
    Couples R R (readOr query) :=
  fun s s' related => ⟨same s s' related, related⟩

/-- Related states stay related under a weaker relation. -/
theorem Couples.weaken {Q : σ → σ → Prop} {call : Call σ ε α} (couples : call.Couples Q R')
    (stronger : ∀ s s', R s s' → Q s s') : call.Couples R R' :=
  fun s s' related => couples s s' (stronger s s' related)

/-- A transaction that fails leaves the states it began in, which have to be related afterwards
as well. -/
theorem couples_commit {body : Tx σ ε α} (couples : body.Couples R fun _ => R')
    (weaker : ∀ s s', R s s' → R' s s') : Couples R R' (commit body) := by
  intro s s' related
  have alike := couples s s' related
  unfold commit
  generalize body s = outcome at alike ⊢
  generalize body s' = outcome' at alike ⊢
  cases alike with
  | done after => exact ⟨rfl, after⟩
  | failed error => exact ⟨rfl, weaker s s' related⟩

theorem couples_autocommit {refuse : δ → ε} {statement : σ → Except δ (α × σ)}
    (alike : ∀ s s', R s s' → Alike (fun _ => R') (statement s) (statement s'))
    (weaker : ∀ s s', R s s' → R' s s') : Couples R R' (autocommit refuse statement) :=
  couples_commit (Tx.couples_execute alike) weaker

theorem couples_bind {call : Call σ ε α} {next : α → Call σ ε β} (first : call.Couples R R')
    (rest : ∀ value, (next value).Couples R' R') : Couples R R' (call >>= next) := by
  intro s s' related
  obtain ⟨same, after⟩ := first s s' related
  cases ran : call s with
  | mk answer t =>
      cases ran' : call s' with
      | mk answer' t' =>
          rw [ran, ran'] at same after
          obtain rfl : answer = answer' := same
          cases answer with
          | ok value =>
              rw [call_bind_of_ok ran, call_bind_of_ok ran']
              exact rest value t t' after
          | error error =>
              rw [call_bind_eq_error.2 (.inl ran), call_bind_eq_error.2 (.inl ran')]
              exact ⟨rfl, after⟩

/-- A check before anything is written. -/
theorem couples_ensure_bind {condition : Bool} {error : ε} {next : Unit → Call σ ε α}
    (rest : condition = true → (next ()).Couples R R') (weaker : ∀ s s', R s s' → R' s s') :
    Couples R R' (ensure condition error >>= next) := by
  cases condition with
  | true => exact rest rfl
  | false => exact fun s s' related => ⟨rfl, weaker s s' related⟩

theorem couples_okOr_bind {value : Option β} {error : ε} {next : β → Call σ ε α}
    (rest : ∀ b, value = some b → (next b).Couples R R') (weaker : ∀ s s', R s s' → R' s s') :
    Couples R R' (okOr value error >>= next) := by
  cases value with
  | some b => exact rest b rfl
  | none => exact fun s s' related => ⟨rfl, weaker s s' related⟩

/-- A check of the arguments that may fail, before anything is written. -/
theorem couples_argument_bind {value : Except ε β} {next : β → Call σ ε α}
    (rest : ∀ b, value = .ok b → (next b).Couples R R') (weaker : ∀ s s', R s s' → R' s s') :
    Couples R R' (readOr (fun _ => value) >>= next) := by
  cases value with
  | ok b => exact rest b rfl
  | error error => exact fun s s' related => ⟨rfl, weaker s s' related⟩

end Call

end MediaBooster.Theory.Transaction
