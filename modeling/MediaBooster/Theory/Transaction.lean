/-
# Theory.Transaction -- atomic transactions and the calls made of them

A transaction body (`Tx`) reads and writes a working copy of the store and may
give up with an error at any statement.  A call (`Call`) of a repository runs
transactions on the shared store, one after another, and decides between them.
`commit` runs a body as one step of a call: it makes the working copy the store
when the body ends normally and drops it otherwise, so a transaction that fails
leaves the store as it was, wherever it failed (`commit_error`).

`Along Step body` says that a body that ends normally has only moved the store
along `Step`, and `Moves Step call` says the same of a call, however it ends.
For a `Step` that is reflexive and transitive both follow the syntax of the
program: one rule for each way to build one.
-/
import Mathlib.Order.Defs.Unbundled

namespace MediaBooster.Theory.Transaction

set_option autoImplicit false

variable {σ ε δ α β : Type}

/-! ## Transactions and calls -/

/-- An open transaction over `σ` that may give up with an `ε`. -/
abbrev Tx (σ ε α : Type) := StateT σ (Except ε) α

namespace Tx

/-- One statement, with its failures reported as `refuse` words them. -/
def execute (refuse : δ → ε) (statement : σ → Except δ (α × σ)) : Tx σ ε α :=
  fun s => (statement s).mapError refuse

/-- A read of the working copy. -/
def select (query : σ → α) : Tx σ ε α := fun s => .ok (query s, s)

/-- A read of the working copy that may fail on what it finds. -/
def selectOr (query : σ → Except ε α) : Tx σ ε α := fun s => (query s).map fun a => (a, s)

/-- Give up with `error` unless `condition` holds. -/
def ensure (condition : Bool) (error : ε) : Tx σ ε Unit :=
  if condition then pure () else throw error

/-- The value of an option, or give up with `error`. -/
def okOr (value : Option α) (error : ε) : Tx σ ε α :=
  match value with
  | some a => pure a
  | none => throw error

end Tx

/-- A call on the shared store `σ` that may fail with an `ε`. -/
def Call (σ ε α : Type) := σ → Except ε α × σ

instance : Monad (Call σ ε) where
  pure a s := (.ok a, s)
  bind call next s :=
    match call s with
    | (.ok a, t) => next a t
    | (.error e, t) => (.error e, t)

namespace Call

/-- Return an error. -/
def fail (error : ε) : Call σ ε α := fun s => (.error error, s)

/-- Fail with `error` unless `condition` holds. -/
def ensure (condition : Bool) (error : ε) : Call σ ε Unit :=
  if condition then pure () else fail error

/-- The value of an option, or fail with `error`. -/
def okOr (value : Option α) (error : ε) : Call σ ε α :=
  match value with
  | some a => pure a
  | none => fail error

/-- A read outside a transaction. -/
def read (query : σ → α) : Call σ ε α := fun s => (.ok (query s), s)

/-- A read that may fail on what it finds. -/
def readOr (query : σ → Except ε α) : Call σ ε α := fun s => (query s, s)

/-- The same call with its errors mapped. -/
def mapError (f : δ → ε) (call : Call σ δ α) : Call σ ε α := fun s =>
  ((call s).1.mapError f, (call s).2)

end Call

/-- `BEGIN … COMMIT`. -/
def commit (body : Tx σ ε α) : Call σ ε α := fun s =>
  match body s with
  | .ok (a, t) => (.ok a, t)
  | .error e => (.error e, s)

/-- One statement outside a transaction. -/
def autocommit (refuse : δ → ε) (statement : σ → Except δ (α × σ)) : Call σ ε α :=
  commit (Tx.execute refuse statement)

/-- A call on `s` that answered `result` and left `t`: it ran, or the store refused it. -/
inductive Replies (call : Call σ ε α) : σ → Except ε α → σ → Prop
  | ran {s t : σ} {result : Except ε α} (answer : call s = (result, t)) : Replies call s result t
  | refused {s : σ} (error : ε) : Replies call s (.error error) s

theorem Replies.self (call : Call σ ε α) (s : σ) : Replies call s (call s).1 (call s).2 := .ran rfl

@[simp] theorem mapError_ok (f : δ → ε) (a : α) :
    (Except.ok a : Except δ α).mapError f = .ok a := rfl

@[simp] theorem mapError_error (f : δ → ε) (d : δ) :
    (Except.error d : Except δ α).mapError f = .error (f d) := rfl

/-! ## When a body ends normally -/

theorem except_bind_eq_ok {x : Except ε α} {next : α → Except ε β} {b : β} :
    (x >>= next) = .ok b ↔ ∃ a, x = .ok a ∧ next a = .ok b := by
  cases x with
  | error e => simp [bind, Except.bind]
  | ok a => simp [bind, Except.bind]

theorem except_mapError_eq_ok {f : δ → ε} {x : Except δ α} {a : α} :
    x.mapError f = .ok a ↔ x = .ok a := by
  cases x with
  | error d => simp
  | ok b => simp

theorem bind_eq_ok {body : Tx σ ε α} {next : α → Tx σ ε β} {s u : σ} {b : β} :
    (body >>= next) s = .ok (b, u) ↔ ∃ a t, body s = .ok (a, t) ∧ next a t = .ok (b, u) := by
  change Except.bind (body s) (fun p => next p.1 p.2) = .ok (b, u) ↔ _
  cases body s with
  | error e => simp [Except.bind]
  | ok p =>
      obtain ⟨a, t⟩ := p
      simp [Except.bind, and_assoc]

@[simp] theorem pure_eq_ok {s t : σ} {a b : α} :
    (pure a : Tx σ ε α) s = .ok (b, t) ↔ a = b ∧ s = t := by
  change (Except.ok (a, s) : Except ε (α × σ)) = .ok (b, t) ↔ _
  simp

@[simp] theorem throw_ne_ok {s t : σ} {e : ε} {a : α} :
    (throw e : Tx σ ε α) s = .ok (a, t) ↔ False := by
  change (Except.error e : Except ε (α × σ)) = .ok (a, t) ↔ _
  simp

@[simp] theorem select_eq_ok {query : σ → α} {s t : σ} {a : α} :
    (Tx.select query : Tx σ ε α) s = .ok (a, t) ↔ query s = a ∧ s = t := by
  simp [Tx.select]

@[simp] theorem selectOr_eq_ok {query : σ → Except ε α} {s t : σ} {a : α} :
    Tx.selectOr query s = .ok (a, t) ↔ query s = .ok a ∧ s = t := by
  change (query s).map (fun a => (a, s)) = .ok (a, t) ↔ _
  cases query s with
  | error e => simp [Except.map]
  | ok b => simp [Except.map]

@[simp] theorem ensure_eq_ok {condition : Bool} {error : ε} {s t : σ} {u : Unit} :
    (Tx.ensure condition error : Tx σ ε Unit) s = .ok (u, t) ↔ condition = true ∧ s = t := by
  rw [Tx.ensure]
  split
  · rename_i holds
    simp [holds]
  · rename_i fails
    simp [fails]

@[simp] theorem okOr_eq_ok {value : Option α} {error : ε} {s t : σ} {a : α} :
    (Tx.okOr value error : Tx σ ε α) s = .ok (a, t) ↔ value = some a ∧ s = t := by
  cases value with
  | none => simp [Tx.okOr]
  | some b => simp [Tx.okOr]

@[simp] theorem execute_eq_ok {refuse : δ → ε} {statement : σ → Except δ (α × σ)} {s t : σ}
    {a : α} : Tx.execute refuse statement s = .ok (a, t) ↔ statement s = .ok (a, t) := by
  change (statement s).mapError refuse = .ok (a, t) ↔ _
  cases statement s with
  | error e => simp
  | ok p => simp

/-! ## How a call ends -/

theorem call_bind_eq_ok {call : Call σ ε α} {next : α → Call σ ε β} {s u : σ} {b : β} :
    (call >>= next) s = (.ok b, u) ↔ ∃ a t, call s = (.ok a, t) ∧ next a t = (.ok b, u) := by
  change (match call s with
    | (.ok a, t) => next a t
    | (.error e, t) => (.error e, t)) = (.ok b, u) ↔ _
  obtain ⟨result, t⟩ := call s
  cases result with
  | error e => simp
  | ok a => simp [and_assoc]

theorem call_bind_of_ok {call : Call σ ε α} {next : α → Call σ ε β} {s t : σ} {a : α}
    (ran : call s = (.ok a, t)) : (call >>= next) s = next a t := by
  change (match call s with
    | (.ok a, t) => next a t
    | (.error e, t) => (.error e, t)) = _
  rw [ran]

theorem call_bind_eq_error {call : Call σ ε α} {next : α → Call σ ε β} {s u : σ} {e : ε} :
    (call >>= next) s = (.error e, u) ↔
      call s = (.error e, u) ∨ ∃ a t, call s = (.ok a, t) ∧ next a t = (.error e, u) := by
  change (match call s with
    | (.ok a, t) => next a t
    | (.error e, t) => (.error e, t)) = (.error e, u) ↔ _
  obtain ⟨result, t⟩ := call s
  cases result with
  | error e => simp
  | ok a => simp [and_assoc]

@[simp] theorem call_pure_eq {s : σ} {a : α} : (pure a : Call σ ε α) s = (.ok a, s) := rfl

@[simp] theorem call_fail_eq {s : σ} {e : ε} : (Call.fail e : Call σ ε α) s = (.error e, s) := rfl

@[simp] theorem call_read_eq {s : σ} {query : σ → α} :
    (Call.read query : Call σ ε α) s = (.ok (query s), s) := rfl

@[simp] theorem call_readOr_eq {s : σ} {query : σ → Except ε α} :
    Call.readOr query s = (query s, s) := rfl

@[simp] theorem call_pure_bind {s : σ} {a : α} {next : α → Call σ ε β} :
    ((pure a : Call σ ε α) >>= next) s = next a s := rfl

@[simp] theorem call_read_bind {s : σ} {query : σ → α} {next : α → Call σ ε β} :
    ((Call.read query : Call σ ε α) >>= next) s = next (query s) s := rfl

@[simp] theorem call_ensure_eq_ok {condition : Bool} {error : ε} {s t : σ} {u : Unit} :
    (Call.ensure condition error : Call σ ε Unit) s = (.ok u, t) ↔ condition = true ∧ s = t := by
  rw [Call.ensure]
  split
  · rename_i holds
    simp [holds]
  · rename_i fails
    simp [fails]

@[simp] theorem call_ensure_eq_error {condition : Bool} {error e : ε} {s t : σ} :
    (Call.ensure condition error : Call σ ε Unit) s = (.error e, t) ↔
      condition = false ∧ error = e ∧ s = t := by
  rw [Call.ensure]
  split
  · rename_i holds
    simp [holds]
  · rename_i fails
    simp [fails]

@[simp] theorem call_okOr_eq_ok {value : Option α} {error : ε} {s t : σ} {a : α} :
    (Call.okOr value error : Call σ ε α) s = (.ok a, t) ↔ value = some a ∧ s = t := by
  cases value with
  | none => simp [Call.okOr]
  | some b => simp [Call.okOr]

@[simp] theorem call_okOr_eq_error {value : Option α} {error e : ε} {s t : σ} :
    (Call.okOr value error : Call σ ε α) s = (.error e, t) ↔
      value = none ∧ error = e ∧ s = t := by
  cases value with
  | none => simp [Call.okOr]
  | some b => simp [Call.okOr]

/-- A call that first checks its input: the check failed, or the rest ran. -/
theorem call_checked_cases {condition : Bool} {error : ε} {call : Call σ ε α} {s t : σ}
    {result : Except ε α}
    (ran : (Call.ensure condition error >>= fun _ => call) s = (result, t)) :
    (result = .error error ∧ t = s) ∨ (condition = true ∧ call s = (result, t)) := by
  cases result with
  | error e =>
      obtain refused | ⟨_, middle, checked, rest⟩ := call_bind_eq_error.1 ran
      · obtain ⟨-, rfl, rfl⟩ := call_ensure_eq_error.1 refused
        exact .inl ⟨rfl, rfl⟩
      · obtain ⟨holds, rfl⟩ := call_ensure_eq_ok.1 checked
        exact .inr ⟨holds, rest⟩
  | ok a =>
      obtain ⟨_, middle, checked, rest⟩ := call_bind_eq_ok.1 ran
      obtain ⟨holds, rfl⟩ := call_ensure_eq_ok.1 checked
      exact .inr ⟨holds, rest⟩

@[simp] theorem call_mapError_eq_ok {f : δ → ε} {call : Call σ δ α} {s t : σ} {a : α} :
    Call.mapError f call s = (.ok a, t) ↔ call s = (.ok a, t) := by
  rw [Call.mapError]
  generalize call s = outcome
  obtain ⟨result, t'⟩ := outcome
  cases result with
  | error e => simp
  | ok b => simp

theorem call_mapError_eq_error {f : δ → ε} {call : Call σ δ α} {s t : σ} {e : ε} :
    Call.mapError f call s = (.error e, t) ↔ ∃ d, call s = (.error d, t) ∧ f d = e := by
  rw [Call.mapError]
  generalize call s = outcome
  obtain ⟨result, t'⟩ := outcome
  cases result with
  | error d =>
      simp only [mapError_error, Prod.mk.injEq, Except.error.injEq]
      constructor
      · rintro ⟨same, rfl⟩
        exact ⟨d, ⟨rfl, rfl⟩, same⟩
      · rintro ⟨d', ⟨rfl, rfl⟩, same⟩
        exact ⟨same, rfl⟩
  | ok b => simp

@[simp] theorem commit_eq_ok {body : Tx σ ε α} {s t : σ} {a : α} :
    commit body s = (.ok a, t) ↔ body s = .ok (a, t) := by
  rw [commit]
  cases body s with
  | error e => simp
  | ok p => simp [Prod.ext_iff]

/-- A transaction that fails, at whatever statement, changes nothing. -/
theorem commit_error {body : Tx σ ε α} {s t : σ} {e : ε} (failed : commit body s = (.error e, t)) :
    t = s := by
  rw [commit] at failed
  split at failed
  · cases failed
  · cases failed
    rfl

theorem autocommit_eq_ok {refuse : δ → ε} {statement : σ → Except δ (α × σ)} {s t : σ} {a : α} :
    autocommit refuse statement s = (.ok a, t) ↔ statement s = .ok (a, t) := by
  simp [autocommit]

theorem autocommit_error {refuse : δ → ε} {statement : σ → Except δ (α × σ)} {s t : σ} {e : ε}
    (failed : autocommit refuse statement s = (.error e, t)) : t = s :=
  commit_error failed

/-! ## What a body moves the store along -/

/-- A body that ends normally has moved the store along `Step`. -/
def Along (Step : σ → σ → Prop) (body : Tx σ ε α) : Prop :=
  ∀ s a t, body s = .ok (a, t) → Step s t

section Rules

variable {Step : σ → σ → Prop}

theorem along_pure [Std.Refl Step] (a : α) : Along Step (pure a : Tx σ ε α) := by
  intro s b t ran
  obtain ⟨-, rfl⟩ := pure_eq_ok.1 ran
  exact Std.Refl.refl s

theorem along_select [Std.Refl Step] (query : σ → α) : Along Step (Tx.select query : Tx σ ε α) := by
  intro s b t ran
  obtain ⟨-, rfl⟩ := select_eq_ok.1 ran
  exact Std.Refl.refl s

theorem along_selectOr [Std.Refl Step] (query : σ → Except ε α) :
    Along Step (Tx.selectOr query) := by
  intro s a t ran
  obtain ⟨-, rfl⟩ := selectOr_eq_ok.1 ran
  exact Std.Refl.refl s

theorem along_execute {refuse : δ → ε} {statement : σ → Except δ (α × σ)}
    (moves : ∀ s a t, statement s = .ok (a, t) → Step s t) :
    Along Step (Tx.execute refuse statement) :=
  fun s a t ran => moves s a t (execute_eq_ok.1 ran)

theorem along_bind [IsTrans σ Step] {body : Tx σ ε α} {next : α → Tx σ ε β}
    (first : Along Step body) (rest : ∀ a, Along Step (next a)) : Along Step (body >>= next) := by
  intro s b u ran
  obtain ⟨a, t, ranFirst, ranRest⟩ := bind_eq_ok.1 ran
  exact IsTrans.trans s t u (first s a t ranFirst) (rest a t b u ranRest)

theorem along_ensure [Std.Refl Step] (condition : Bool) (error : ε) :
    Along Step (Tx.ensure condition error : Tx σ ε Unit) := by
  intro s u t ran
  obtain ⟨-, rfl⟩ := ensure_eq_ok.1 ran
  exact Std.Refl.refl s

theorem along_okOr [Std.Refl Step] (value : Option α) (error : ε) :
    Along Step (Tx.okOr value error : Tx σ ε α) := by
  intro s a t ran
  obtain ⟨-, rfl⟩ := okOr_eq_ok.1 ran
  exact Std.Refl.refl s

theorem along_ite {P : Prop} [Decidable P] {yes no : Tx σ ε α} (onYes : P → Along Step yes)
    (onNo : ¬P → Along Step no) : Along Step (if P then yes else no) := by
  split
  · exact onYes ‹P›
  · exact onNo ‹¬P›

theorem along_forM [Std.Refl Step] [IsTrans σ Step] {body : α → Tx σ ε Unit}
    (each : ∀ a, Along Step (body a)) : ∀ items : List α, Along Step (items.forM body)
  | [] => along_pure ()
  | item :: items => along_bind (each item) fun _ => along_forM each items

theorem along_foldlM [Std.Refl Step] [IsTrans σ Step] {body : β → α → Tx σ ε β}
    (each : ∀ b a, Along Step (body b a)) :
    ∀ (items : List α) (b : β), Along Step (items.foldlM body b)
  | [], b => along_pure b
  | item :: items, b => along_bind (each b item) fun b' => along_foldlM each items b'

theorem along_mapM [Std.Refl Step] [IsTrans σ Step] {body : α → Tx σ ε β}
    (each : ∀ a, Along Step (body a)) (items : List α) : Along Step (items.mapM body) := by
  induction items with
  | nil => exact along_pure []
  | cons item items ih =>
      rw [List.mapM_cons]
      exact along_bind (each item) fun _ => along_bind ih fun _ => along_pure _

/-- A call moves the store along `Step`, however it ends. -/
def Moves (Step : σ → σ → Prop) (call : Call σ ε α) : Prop := ∀ s, Step s (call s).2

theorem moves_of_cases {call : Call σ ε α}
    (each : ∀ s result t, call s = (result, t) → Step s t) : Moves Step call :=
  fun s => each s _ _ rfl

/-- A transaction moves the store along `Step`, whether it commits or rolls back. -/
theorem moves_commit [Std.Refl Step] {body : Tx σ ε α} (along : Along Step body) :
    Moves Step (commit body) := by
  intro s
  rw [commit]
  split
  · rename_i a t ran
    exact along s a t ran
  · exact Std.Refl.refl s

theorem moves_autocommit [Std.Refl Step] {refuse : δ → ε} {statement : σ → Except δ (α × σ)}
    (moves : ∀ s a t, statement s = .ok (a, t) → Step s t) :
    Moves Step (autocommit refuse statement) :=
  moves_commit (along_execute moves)

theorem moves_pure [Std.Refl Step] (a : α) : Moves Step (pure a : Call σ ε α) :=
  fun s => Std.Refl.refl s

theorem moves_fail [Std.Refl Step] (e : ε) : Moves Step (Call.fail e : Call σ ε α) :=
  fun s => Std.Refl.refl s

theorem moves_read [Std.Refl Step] (query : σ → α) : Moves Step (Call.read query : Call σ ε α) :=
  fun s => Std.Refl.refl s

theorem moves_readOr [Std.Refl Step] (query : σ → Except ε α) : Moves Step (Call.readOr query) :=
  fun s => Std.Refl.refl s

theorem moves_ensure [Std.Refl Step] (condition : Bool) (error : ε) :
    Moves Step (Call.ensure condition error : Call σ ε Unit) := by
  rw [Call.ensure]
  split
  · exact moves_pure ()
  · exact moves_fail error

theorem moves_okOr [Std.Refl Step] (value : Option α) (error : ε) :
    Moves Step (Call.okOr value error : Call σ ε α) := by
  cases value with
  | none => exact moves_fail error
  | some a => exact moves_pure a

theorem moves_bind [IsTrans σ Step] {call : Call σ ε α} {next : α → Call σ ε β}
    (first : Moves Step call) (rest : ∀ a, Moves Step (next a)) : Moves Step (call >>= next) := by
  intro s
  have moved := first s
  change Step s (match call s with
    | (.ok a, t) => next a t
    | (.error e, t) => (.error e, t)).2
  generalize call s = outcome at moved
  obtain ⟨result, t⟩ := outcome
  cases result with
  | error e => exact moved
  | ok a => exact IsTrans.trans _ _ _ moved (rest a t)

/-- The rest of a call may use that the option it needs is there. -/
theorem moves_okOr_bind [Std.Refl Step] {value : Option α} {error : ε} {next : α → Call σ ε β}
    (rest : ∀ a, value = some a → Moves Step (next a)) :
    Moves Step (Call.okOr value error >>= next) := by
  cases value with
  | none => exact moves_fail error
  | some a => exact rest a rfl

end Rules

/-! ## Calls that change nothing when they fail -/

/-- A call that fails leaves the store as it was. -/
def Atomic (call : Call σ ε α) : Prop := ∀ s e t, call s = (.error e, t) → t = s

theorem atomic_commit (body : Tx σ ε α) : Atomic (commit body) := fun _ _ _ => commit_error

theorem atomic_of_reads {call : Call σ ε α} (reads : Moves Eq call) : Atomic call := by
  intro s e t failed
  have same := reads s
  rw [failed] at same
  exact same.symm

theorem atomic_mapError {f : δ → ε} {call : Call σ δ α} (atomic : Atomic call) :
    Atomic (Call.mapError f call) := by
  intro s e t failed
  obtain ⟨d, failed, -⟩ := call_mapError_eq_error.1 failed
  exact atomic s d t failed

/-- Reading first keeps the rest atomic. -/
theorem atomic_bind {call : Call σ ε α} {next : α → Call σ ε β} (reads : Moves Eq call)
    (rest : ∀ a, Atomic (next a)) : Atomic (call >>= next) := by
  intro s e u failed
  obtain early | ⟨a, t, ran, late⟩ := call_bind_eq_error.1 failed
  · exact atomic_of_reads reads s e u early
  · have same : s = t := by simpa [ran] using reads s
    subst same
    exact rest a s e u late

/-- What cannot fail any more keeps the call atomic. -/
theorem atomic_map {call : Call σ ε α} {f : α → β} (atomic : Atomic call) :
    Atomic (call >>= fun a => pure (f a)) := by
  intro s e u failed
  obtain failed | ⟨a, t, -, failed⟩ := call_bind_eq_error.1 failed
  · exact atomic s e u failed
  · rw [call_pure_eq] at failed
    cases failed

/-- `Holds` is kept: the relation along which an invariant is preserved. -/
def Keeps (Holds : σ → Prop) : σ → σ → Prop := fun s t => Holds s → Holds t

instance (Holds : σ → Prop) : Std.Refl (Keeps Holds) := ⟨fun _ holds => holds⟩

instance (Holds : σ → Prop) : IsTrans σ (Keeps Holds) :=
  ⟨fun _ _ _ first second holds => second (first holds)⟩

end MediaBooster.Theory.Transaction
