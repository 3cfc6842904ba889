/-
# Browser.MapLimit -- a bounded number of workers over a list

`mapLimit` starts `min(limit, items.length)` workers.  Each takes the next index, calls the mapper
with its item and awaits the answer; what comes back is written to its place in the results, or
into `firstError`, and the worker goes on while no error is there.  The calls settle and the
workers go on in any order.

The mapper is any: a call of it is an index in `called`, and settles with any outcome.

* `mapLimit_bounded`: in every run the mapper is called at most once for an index, with the item
  at that index, and not again once an error is recorded; when the workers have returned, the
  answer is the outcome of every call in the order of the items, or an error that some call
  settled with.
-/
import MediaBooster.Theory.Run
import Mathlib.Data.List.Nodup

namespace MediaBooster.Browser

set_option autoImplicit false

open MediaBooster.Theory.Run

variable {ι ρ ε : Type}

/-! ## The function -/

/-- A worker: at its `await mapper(item, index)`, about to go on after it, or at its end. -/
inductive Worker (ρ ε : Type)
  | awaiting (index : Nat)
  | resuming (index : Nat) (outcome : Except ε ρ)
  | returned

/-- The variables of `mapLimit`, with the calls of the mapper and what they settled with, in
their order. -/
structure MapLimit (ι ρ ε : Type) where
  results : List (Option ρ)
  next : Nat
  firstError : Option ε
  workers : List (Worker ρ ε)
  called : List (Nat × ι)
  settled : List (Nat × Except ε ρ)

/-- What `mapLimit` is called with; the options it is called with are at least one. -/
structure Mapping (ι : Type) where
  items : List ι
  limit : Nat
  positive : 1 ≤ limit

namespace Mapping

/-- The number of workers. -/
def size (mapping : Mapping ι) : Nat := min mapping.limit mapping.items.length

end Mapping

namespace MapLimit

/-- Before the first worker is started. -/
def initial (mapping : Mapping ι) : MapLimit ι ρ ε where
  results := List.replicate mapping.items.length none
  next := 0
  firstError := none
  workers := []
  called := []
  settled := []

/-- The loop of a worker from its condition to its next await or its end. -/
def turn (items : List ι) (m : MapLimit ι ρ ε) : Worker ρ ε × MapLimit ι ρ ε :=
  match m.firstError with
  | some _ => (.returned, m)
  | none =>
      match items[m.next]? with
      | none => (.returned, { m with next := m.next + 1 })
      | some item => (.awaiting m.next,
          { m with next := m.next + 1, called := m.called ++ [(m.next, item)] })

/-- `Array.from` starts another worker. -/
def start (items : List ι) (m : MapLimit ι ρ ε) : MapLimit ι ρ ε :=
  { (m.turn items).2 with workers := m.workers ++ [(m.turn items).1] }

/-- The mapper's promise settles: the worker that awaits it is to go on. -/
def settle (m : MapLimit ι ρ ε) (index : Nat) (outcome : Except ε ρ) : MapLimit ι ρ ε :=
  { m with
    workers := m.workers.map fun worker =>
      match worker with
      | .awaiting other => if other = index then .resuming index outcome else .awaiting other
      | worker => worker
    settled := m.settled ++ [(index, outcome)] }

/-- `results[index] = …`, or `firstError = error`. -/
def record (m : MapLimit ι ρ ε) (index : Nat) : Except ε ρ → MapLimit ι ρ ε
  | .ok result => { m with results := m.results.set index (some result) }
  | .error error => { m with firstError := some error }

/-- Worker `place` goes on with the outcome of its call. -/
def resume (items : List ι) (m : MapLimit ι ρ ε) (place index : Nat) (outcome : Except ε ρ) :
    MapLimit ι ρ ε :=
  let turned := (m.record index outcome).turn items
  { turned.2 with workers := m.workers.set place turned.1 }

/-- Every worker has been started and has returned: `Promise.allSettled` is through. -/
def Finished (mapping : Mapping ι) (m : MapLimit ι ρ ε) : Prop :=
  m.workers.length = mapping.size ∧ ∀ worker ∈ m.workers, worker = .returned

/-- What `mapLimit` throws or returns then. -/
def answer (m : MapLimit ι ρ ε) : Except ε (List (Option ρ)) :=
  match m.firstError with
  | some error => .error error
  | none => .ok m.results

end MapLimit

/-- What happens to `mapLimit`. -/
inductive MapEvent (ρ ε : Type)
  | starts
  | settles (index : Nat) (outcome : Except ε ρ)
  | resumes (place : Nat)

/-- One turn of one worker, or one answer of the mapper. -/
inductive MapStep (mapping : Mapping ι) : MapLimit ι ρ ε → MapEvent ρ ε → MapLimit ι ρ ε → Prop
  | starts {m : MapLimit ι ρ ε} (more : m.workers.length < mapping.size) :
      MapStep mapping m .starts (m.start mapping.items)
  | settles {m : MapLimit ι ρ ε} {index : Nat} (awaits : .awaiting index ∈ m.workers)
      (outcome : Except ε ρ) :
      MapStep mapping m (.settles index outcome) (m.settle index outcome)
  | resumes {m : MapLimit ι ρ ε} {place index : Nat} {outcome : Except ε ρ}
      (ready : m.workers[place]? = some (.resuming index outcome)) :
      MapStep mapping m (.resumes place) (m.resume mapping.items place index outcome)

/-! ## The invariant -/

/-- Where index `index` stands, once the mapper has been called for it. -/
def Placed (m : MapLimit ι ρ ε) (index : Nat) : Prop :=
  .awaiting index ∈ m.workers ∨ (∃ outcome, .resuming index outcome ∈ m.workers) ∨
    (∃ result, m.results[index]? = some (some result)) ∨ m.firstError ≠ none

/-- What every run of `mapLimit` keeps, apart from its list of workers. -/
structure Mapped (mapping : Mapping ι) (m : MapLimit ι ρ ε) : Prop where
  length : m.results.length = mapping.items.length
  called : m.called.map Prod.fst = List.range (min m.next mapping.items.length)
  items : ∀ index item, (index, item) ∈ m.called → mapping.items[index]? = some item
  awaits : ∀ index, .awaiting index ∈ m.workers → index < min m.next mapping.items.length ∧
    index ∉ m.settled.map Prod.fst
  resumes : ∀ index outcome, .resuming index outcome ∈ m.workers → (index, outcome) ∈ m.settled
  once : (m.settled.map Prod.fst).Nodup
  early : ∀ index ∈ m.settled.map Prod.fst, index < min m.next mapping.items.length
  recorded : ∀ index result, m.results[index]? = some (some result) →
    (index, .ok result) ∈ m.settled
  failed : ∀ error, m.firstError = some error → ∃ index, (index, .error error) ∈ m.settled
  ended : .returned ∈ m.workers → mapping.items.length ≤ m.next ∨ m.firstError ≠ none
  placed : ∀ index < min m.next mapping.items.length, Placed m index

/-- What came back for `index` is recorded. -/
def Written (m : MapLimit ι ρ ε) (index : Nat) : Prop :=
  (∃ result, m.results[index]? = some (some result)) ∨ m.firstError ≠ none

section Turns

variable {m : MapLimit ι ρ ε} {index : Nat} {outcome : Except ε ρ}

/-- The three ends of a turn: an error is there, the items are through, or one more is called. -/
theorem turn_cases (items : List ι) (m : MapLimit ι ρ ε) :
    (m.firstError ≠ none ∧ m.turn items = (.returned, m)) ∨
    (m.firstError = none ∧ items.length ≤ m.next ∧
      m.turn items = (.returned, { m with next := m.next + 1 })) ∨
    ∃ item, m.firstError = none ∧ items[m.next]? = some item ∧ m.turn items = (.awaiting m.next,
      { m with next := m.next + 1, called := m.called ++ [(m.next, item)] }) := by
  unfold MapLimit.turn
  cases m.firstError with
  | some error => exact .inl ⟨by simp, rfl⟩
  | none =>
      cases there : items[m.next]? with
      | none => exact .inr (.inl ⟨rfl, List.getElem?_eq_none_iff.1 there, rfl⟩)
      | some item => exact .inr (.inr ⟨item, rfl, rfl, rfl⟩)

@[simp] theorem turn_settled (items : List ι) : (m.turn items).2.settled = m.settled := by
  rcases turn_cases items m with ⟨-, turn⟩ | ⟨-, -, turn⟩ | ⟨item, -, -, turn⟩ <;> rw [turn]

/-- The index a worker takes is the next one. -/
theorem turn_awaiting {items : List ι} (awaits : (m.turn items).1 = .awaiting index) :
    index = m.next := by
  rcases turn_cases items m with ⟨-, turn⟩ | ⟨-, -, turn⟩ | ⟨item, -, -, turn⟩
  all_goals
    rw [turn] at awaits
    cases awaits
  rfl

@[simp] theorem record_next : (m.record index outcome).next = m.next := by
  cases outcome <;> rfl

@[simp] theorem record_settled : (m.record index outcome).settled = m.settled := by
  cases outcome <;> rfl

@[simp] theorem record_workers : (m.record index outcome).workers = m.workers := by
  cases outcome <;> rfl

/-- The other workers stay. -/
theorem mem_set_other {workers : List (Worker ρ ε)} {place : Nat} {old new worker : Worker ρ ε}
    (there : workers[place]? = some old) (member : worker ∈ workers) (different : worker ≠ old) :
    worker ∈ workers.set place new := by
  obtain ⟨other, here⟩ := List.mem_iff_getElem?.1 member
  refine List.mem_iff_getElem?.2 ⟨other, ?_⟩
  rw [List.getElem?_set_ne, here]
  rintro rfl
  rw [there] at here
  exact different (Option.some.inj here).symm

theorem settle_awaiting {other : Nat} : .awaiting other ∈ (m.settle index outcome).workers ↔
    .awaiting other ∈ m.workers ∧ other ≠ index := by
  simp only [MapLimit.settle, List.mem_map]
  constructor
  · rintro ⟨worker, member, same⟩
    cases worker with
    | awaiting earlier =>
        simp only at same
        split at same
        · cases same
        · rename_i different
          cases same
          exact ⟨member, different⟩
    | resuming | returned => cases same
  · rintro ⟨member, different⟩
    exact ⟨_, member, if_neg different⟩

theorem settle_resuming {other : Nat} {result : Except ε ρ} :
    .resuming other result ∈ (m.settle index outcome).workers ↔
      .resuming other result ∈ m.workers ∨
        other = index ∧ result = outcome ∧ .awaiting index ∈ m.workers := by
  simp only [MapLimit.settle, List.mem_map]
  constructor
  · rintro ⟨worker, member, same⟩
    cases worker with
    | awaiting earlier =>
        simp only at same
        split at same
        · rename_i here
          subst here
          cases same
          exact .inr ⟨rfl, rfl, member⟩
        · cases same
    | resuming =>
        cases same
        exact .inl member
    | returned => cases same
  · rintro (member | ⟨rfl, rfl, member⟩)
    · exact ⟨_, member, rfl⟩
    · exact ⟨_, member, if_pos rfl⟩

theorem settle_returned : .returned ∈ (m.settle index outcome).workers ↔ .returned ∈ m.workers := by
  simp only [MapLimit.settle, List.mem_map]
  constructor
  · rintro ⟨worker, member, same⟩
    cases worker with
    | awaiting earlier =>
        simp only at same
        split at same <;> cases same
    | resuming => cases same
    | returned => exact member
  · intro member
    exact ⟨_, member, rfl⟩

end Turns

namespace Mapped

variable {mapping : Mapping ι} {m after : MapLimit ι ρ ε}

theorem initial : Mapped mapping (MapLimit.initial mapping : MapLimit ι ρ ε) where
  length := List.length_replicate
  called := by simp [MapLimit.initial]
  items _ _ member := by cases member
  awaits _ member := by cases member
  resumes _ _ member := by cases member
  once := List.nodup_nil
  early _ member := by cases member
  recorded index result there := by
    have member := List.mem_of_getElem? there
    cases (List.mem_replicate.1 member).2
  failed _ error := by cases error
  ended member := by cases member
  placed index small := by
    rw [MapLimit.initial, Nat.zero_min] at small
    omega


theorem settle (mapped : Mapped mapping m) {index : Nat} (awaits : .awaiting index ∈ m.workers)
    (outcome : Except ε ρ) : Mapped mapping (m.settle index outcome) := by
  obtain ⟨small, fresh⟩ := mapped.awaits index awaits
  have answers : (m.settle index outcome).settled.map Prod.fst =
      m.settled.map Prod.fst ++ [index] := by simp [MapLimit.settle]
  refine ⟨mapped.length, mapped.called, mapped.items, ?_, ?_, ?_, ?_, ?_, ?_, ?_, ?_⟩
  · intro other member
    obtain ⟨still, different⟩ := settle_awaiting.1 member
    obtain ⟨before, unsettled⟩ := mapped.awaits other still
    rw [answers]
    simp only [List.mem_append, List.mem_singleton, not_or]
    exact ⟨before, unsettled, different⟩
  · intro other result member
    simp only [MapLimit.settle, List.mem_append, List.mem_singleton]
    rcases settle_resuming.1 member with before | ⟨rfl, rfl, -⟩
    · exact .inl (mapped.resumes other result before)
    · exact .inr rfl
  · rw [answers]
    exact List.nodup_append.2 ⟨mapped.once, List.nodup_singleton index, fun a settled b single => by
      rw [List.mem_singleton.1 single]
      rintro rfl
      exact fresh settled⟩
  · intro other member
    rw [answers, List.mem_append, List.mem_singleton] at member
    rcases member with before | rfl
    · exact mapped.early other before
    · exact small
  · intro other result there
    exact List.mem_append_left _ (mapped.recorded other result there)
  · intro error there
    obtain ⟨other, member⟩ := mapped.failed error there
    exact ⟨other, List.mem_append_left _ member⟩
  · intro returned
    exact mapped.ended (settle_returned.1 returned)
  · intro other small
    by_cases same : other = index
    · subst same
      exact .inr (.inl ⟨outcome, settle_resuming.2 (.inr ⟨rfl, rfl, awaits⟩)⟩)
    · rcases mapped.placed other small with awaiting | ⟨result, resuming⟩ | recorded | failed
      · exact .inl (settle_awaiting.2 ⟨awaiting, same⟩)
      · exact .inr (.inl ⟨result, settle_resuming.2 (.inl resuming)⟩)
      · exact .inr (.inr (.inl recorded))
      · exact .inr (.inr (.inr failed))

/-- What came back is where it belongs: a result at its index, an error in `firstError`. -/
theorem record (mapped : Mapped mapping m) {index : Nat} {outcome : Except ε ρ}
    (resuming : .resuming index outcome ∈ m.workers) :
    Mapped mapping (m.record index outcome) ∧ Written (m.record index outcome) index := by
  have settled := mapped.resumes index outcome resuming
  have small : index < m.results.length := by
    have early := mapped.early index (List.mem_map.2 ⟨_, settled, rfl⟩)
    rw [mapped.length]
    omega
  cases outcome with
  | error error =>
      refine ⟨{ mapped with failed := ?_, ended := ?_, placed := ?_ }, .inr (by simp [MapLimit.record])⟩
      · rintro _ ⟨⟩
        exact ⟨index, settled⟩
      · intro _
        simp [MapLimit.record]
      · intro other _
        exact .inr (.inr (.inr (by simp [MapLimit.record])))
  | ok result =>
      have there : (m.record index (.ok result)).results[index]? = some (some result) := by
        simp [MapLimit.record, small]
      refine ⟨{ mapped with length := ?_, recorded := ?_, placed := ?_ }, .inl ⟨result, there⟩⟩
      · rw [← mapped.length]
        exact List.length_set
      · intro other value found
        simp only [MapLimit.record, List.getElem?_set] at found
        split at found
        · rename_i same
          subst same
          cases found
          exact settled
        · exact mapped.recorded other value found
      · intro other below
        rcases mapped.placed other below with awaiting | moving | ⟨value, found⟩ | failed
        · exact .inl awaiting
        · exact .inr (.inl moving)
        · by_cases same : other = index
          · subst same
            exact .inr (.inr (.inl ⟨result, there⟩))
          · refine .inr (.inr (.inl ⟨value, ?_⟩))
            simp only [MapLimit.record]
            rw [List.getElem?_set_ne (Ne.symm same)]
            exact found
        · exact .inr (.inr (.inr failed))

/-- A worker's turn keeps the invariant, whether it is a new worker or takes the place of one that
went on after its answer was written. -/
theorem turned (mapped : Mapped mapping m) {workers : List (Worker ρ ε)}
    (known : ∀ worker ∈ workers, worker ∈ m.workers ∨ worker = (m.turn mapping.items).1)
    (itself : (m.turn mapping.items).1 ∈ workers)
    (awaiting : ∀ index, .awaiting index ∈ m.workers → .awaiting index ∈ workers)
    (resuming : ∀ index outcome, .resuming index outcome ∈ m.workers →
      .resuming index outcome ∈ workers ∨ Written m index) :
    Mapped mapping { (m.turn mapping.items).2 with workers := workers } := by
  have place : ∀ index < min m.next mapping.items.length,
      Placed { m with workers := workers } index := by
    intro index small
    rcases mapped.placed index small with awaits | ⟨outcome, resumes⟩ | recorded | failed
    · exact .inl (awaiting index awaits)
    · rcases resuming index outcome resumes with still | recorded | failed
      · exact .inr (.inl ⟨outcome, still⟩)
      · exact .inr (.inr (.inl recorded))
      · exact .inr (.inr (.inr failed))
    · exact .inr (.inr (.inl recorded))
    · exact .inr (.inr (.inr failed))
  rcases turn_cases mapping.items m with ⟨failed, turn⟩ | ⟨none, last, turn⟩ | ⟨item, none, there, turn⟩
  all_goals
    rw [turn] at known itself ⊢
    simp only at known itself ⊢
  · refine { mapped with awaits := ?_, resumes := ?_, ended := fun _ => .inr failed, placed := place }
    · intro index member
      rcases known _ member with before | new
      · exact mapped.awaits index before
      · cases new
    · intro index outcome member
      rcases known _ member with before | new
      · exact mapped.resumes index outcome before
      · cases new
  · -- the index taken is past the end
    have same : min (m.next + 1) mapping.items.length = min m.next mapping.items.length := by omega
    refine { mapped with
      called := ?_, awaits := ?_, resumes := ?_, early := ?_, ended := ?_, placed := ?_ }
    · rw [same]
      exact mapped.called
    · intro index member
      rw [same]
      rcases known _ member with before | new
      · exact mapped.awaits index before
      · cases new
    · intro index outcome member
      rcases known _ member with before | new
      · exact mapped.resumes index outcome before
      · cases new
    · rw [same]
      exact mapped.early
    · intro _
      exact .inl (Nat.le_succ_of_le last)
    · rw [same]
      exact place
  · -- the index taken is called
    obtain ⟨inside, -⟩ := List.getElem?_eq_some_iff.1 there
    have before : min m.next mapping.items.length = m.next := by omega
    have after : min (m.next + 1) mapping.items.length = m.next + 1 := by omega
    refine { mapped with
      called := ?_, items := ?_, awaits := ?_, resumes := ?_, early := ?_, ended := ?_, placed := ?_ }
    · have called := mapped.called
      rw [before] at called
      rw [after, List.map_append, called, List.range_succ]
      rfl
    · intro index other member
      rcases List.mem_append.1 member with earlier | new
      · exact mapped.items index other earlier
      · rw [List.mem_singleton] at new
        cases new
        exact there
    · intro index member
      rw [after]
      rcases known _ member with earlier | new
      · obtain ⟨small, fresh⟩ := mapped.awaits index earlier
        exact ⟨by omega, fresh⟩
      · cases new
        refine ⟨Nat.lt_succ_self _, fun settled => ?_⟩
        have early := mapped.early _ settled
        omega
    · intro index outcome member
      rcases known _ member with earlier | new
      · exact mapped.resumes index outcome earlier
      · cases new
    · intro index member
      have early := mapped.early index member
      rw [after]
      omega
    · intro returned
      rcases known _ returned with earlier | new
      · rcases mapped.ended earlier with last | failed
        · omega
        · exact absurd none failed
      · cases new
    · intro index small
      rw [after] at small
      rcases Nat.lt_succ_iff_lt_or_eq.1 small with earlier | rfl
      · exact place index (by omega)
      · exact .inl itself

theorem start (mapped : Mapped mapping m) : Mapped mapping (m.start mapping.items) := by
  apply mapped.turned
  · intro worker member
    simpa using member
  · simp
  · intro index member
    exact List.mem_append_left _ member
  · intro index outcome member
    exact .inl (List.mem_append_left _ member)

theorem resume (mapped : Mapped mapping m) {place index : Nat} {outcome : Except ε ρ}
    (ready : m.workers[place]? = some (.resuming index outcome)) :
    Mapped mapping (m.resume mapping.items place index outcome) := by
  obtain ⟨recorded, written⟩ := mapped.record (List.mem_of_getElem? ready)
  obtain ⟨inside, -⟩ := List.getElem?_eq_some_iff.1 ready
  apply recorded.turned
  · intro worker member
    rw [record_workers]
    exact List.mem_or_eq_of_mem_set member
  · exact List.mem_set inside _
  · intro other member
    rw [record_workers] at member
    exact mem_set_other ready member (by simp)
  · intro other result member
    rw [record_workers] at member
    by_cases same : Worker.resuming other result = .resuming index outcome
    · cases same
      exact .inr written
    · exact .inl (mem_set_other ready member same)

/-- Every turn keeps it. -/
theorem step {event : MapEvent ρ ε} (mapped : Mapped mapping m)
    (step : MapStep mapping m event after) : Mapped mapping after := by
  cases step with
  | starts more => exact mapped.start
  | settles awaits outcome => exact mapped.settle awaits outcome
  | resumes ready => exact mapped.resume ready

end Mapped

/-! ## Whole runs -/

section Runs

variable {mapping : Mapping ι} {m after : MapLimit ι ρ ε} {event : MapEvent ρ ε}
  {events : List (MapEvent ρ ε)}

/-- A recorded error stays, and nothing more is called. -/
theorem error_stops (step : MapStep mapping m event after) (failed : m.firstError ≠ none) :
    after.firstError ≠ none ∧ after.called = m.called := by
  have stays : ∀ {m : MapLimit ι ρ ε}, m.firstError ≠ none →
      m.turn mapping.items = (.returned, m) := by
    intro m failed
    rcases turn_cases mapping.items m with ⟨-, turn⟩ | ⟨none, -⟩ | ⟨item, none, -⟩
    · exact turn
    · exact absurd none failed
    · exact absurd none failed
  cases step with
  | starts more =>
      rw [MapLimit.start, stays failed]
      exact ⟨failed, rfl⟩
  | settles awaits outcome => exact ⟨failed, rfl⟩
  | @resumes place index outcome ready =>
      have recorded : (m.record index outcome).firstError ≠ none := by
        cases outcome with
        | error error => simp [MapLimit.record]
        | ok result => exact failed
      have called : (m.record index outcome).called = m.called := by
        cases outcome <;> rfl
      rw [MapLimit.resume, stays recorded]
      exact ⟨recorded, called⟩

theorem stopped (run : Trace (MapStep mapping) m events after) (failed : m.firstError ≠ none) :
    after.called = m.called := by
  have kept := run.keeps (P := fun later => later.firstError ≠ none ∧ later.called = m.called)
    (fun before event later step holds => by
      obtain ⟨there, same⟩ := error_stops step holds.1
      exact ⟨there, same.trans holds.2⟩) ⟨failed, rfl⟩
  exact kept.2

/-- A list without holes. -/
theorem whole {results : List (Option ρ)}
    (there : ∀ index < results.length, ∃ result, results[index]? = some (some result)) :
    ∃ values : List ρ, results = values.map some := by
  induction results with
  | nil => exact ⟨[], rfl⟩
  | cons head tail ih =>
      obtain ⟨first, here⟩ := there 0 (Nat.succ_pos _)
      rw [List.getElem?_cons_zero] at here
      cases here
      obtain ⟨values, rfl⟩ := ih fun index small => by
        have later := there (index + 1) (Nat.succ_lt_succ small)
        rwa [List.getElem?_cons_succ] at later
      exact ⟨first :: values, rfl⟩

/-- When no worker is left and no error was recorded, every item has its result. -/
theorem Mapped.results_whole (mapped : Mapped mapping m) (finished : m.Finished mapping)
    (none : m.firstError = none) : ∃ values : List ρ, m.results = values.map some := by
  obtain ⟨full, returned⟩ := finished
  apply whole
  intro index small
  rw [mapped.length] at small
  have started : 0 < m.workers.length := by
    have positive := mapping.positive
    rw [full, Mapping.size]
    omega
  have first : Worker.returned ∈ m.workers := by
    have member := List.getElem_mem started
    rwa [returned _ member] at member
  have last : mapping.items.length ≤ m.next := by
    rcases mapped.ended first with last | failed
    · exact last
    · exact absurd none failed
  rcases mapped.placed index (by omega) with awaits | ⟨outcome, resumes⟩ | recorded | failed
  · cases returned _ awaits
  · cases returned _ resumes
  · exact recorded
  · exact absurd none failed

/-- The mapper is called at most once for an index, with the item there; no call follows a recorded
error; and what is returned in the end is what the calls settled with, in the order of the
items. -/
structure MapBounded (mapping : Mapping ι) (m : MapLimit ι ρ ε) : Prop where
  once : (m.called.map Prod.fst).Nodup
  items : ∀ index item, (index, item) ∈ m.called → mapping.items[index]? = some item
  settledOnce : (m.settled.map Prod.fst).Nodup
  stops : m.firstError ≠ none →
    ∀ events after, Trace (MapStep mapping) m events after → after.called = m.called
  throws : ∀ error, m.Finished mapping → m.answer = .error error →
    ∃ index, (index, .error error) ∈ m.settled
  returns : ∀ results, m.Finished mapping → m.answer = .ok results →
    ∃ values : List ρ, results = values.map some ∧ values.length = mapping.items.length ∧
      ∀ index value, values[index]? = some value → (index, .ok value) ∈ m.settled

theorem Mapped.answer_ok (mapped : Mapped mapping m) (finished : m.Finished mapping)
    {results : List (Option ρ)} (answered : m.answer = .ok results) :
    ∃ values : List ρ, results = values.map some ∧ values.length = mapping.items.length ∧
      ∀ index value, values[index]? = some value → (index, .ok value) ∈ m.settled := by
  cases none : m.firstError with
  | some error => simp [MapLimit.answer, none] at answered
  | none =>
      obtain ⟨values, same⟩ := mapped.results_whole finished none
      have is : m.results = results := by simpa [MapLimit.answer, none] using answered
      refine ⟨values, is.symm.trans same, ?_, fun index value there => ?_⟩
      · rw [← mapped.length, same, List.length_map]
      · apply mapped.recorded
        rw [same, List.getElem?_map, there]
        rfl

/-- The invariant holds in every run. -/
theorem mapped_run (run : Trace (MapStep mapping) (MapLimit.initial mapping) events m) :
    Mapped mapping m :=
  run.keeps (fun _ _ _ step mapped => mapped.step step) .initial

/-- **`mapLimit` in every run.** -/
theorem mapLimit_bounded
    (run : Trace (MapStep mapping) (MapLimit.initial mapping) events m) : MapBounded mapping m := by
  have mapped := mapped_run run
  refine ⟨?_, mapped.items, mapped.once, ?_, ?_, ?_⟩
  · rw [mapped.called]
    exact List.nodup_range
  · intro failed events after more
    exact stopped more failed
  · intro error finished answered
    apply mapped.failed
    cases there : m.firstError with
    | none => simp [MapLimit.answer, there] at answered
    | some first =>
        simp only [MapLimit.answer, there, Except.error.injEq] at answered
        rw [answered]
  · intro results finished answered
    exact mapped.answer_ok finished answered

end Runs

end MediaBooster.Browser
