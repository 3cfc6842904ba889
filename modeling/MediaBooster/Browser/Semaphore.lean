/-
# Browser.Semaphore -- the permits of the browser's connections

`Semaphore.use` waits for a permit, calls its operation and gives the permit back however the
operation ends.  A call of `use` goes by its ticket: it asks, and either has a permit at once or
waits in line; `release` hands the permit on to the first in line; an abort takes the waiters of
its signal out of the line, and no others.

Between `acquire` and the operation lies an await.  A call that holds a permit whose operation has
not been called yet is a holder of its own kind: an abort finds no listener of it any more, so it
goes on to its operation and gives its permit back after it.

* `uses_refine`: the calls of `use` are a run of `Theory.Permits`, each permit of weight one.
* `uses_bounded`: in every run no more than `limit` permits are out, each is held by one call, a
  call waits only while all of them are out, and none is out once no call holds one.
-/
import MediaBooster.Theory.Permits

namespace MediaBooster.Browser

set_option autoImplicit false

open MediaBooster.Theory MediaBooster.Theory.Run

variable {τ : Type}

/-! ## The class -/

/-- A limit that the constructor takes. -/
structure Limit where
  permits : Nat
  positive : 1 ≤ permits

/-- The constructor of `Semaphore`. -/
def newSemaphore (limit : Int) : Except String Limit :=
  if positive : 1 ≤ limit then .ok ⟨limit.toNat, by omega⟩
  else .error "semaphore limit must be a positive integer"

/-- The fields of `Semaphore`: the permits that are out, and who to wake, in their order. -/
structure Semaphore (τ : Type) where
  active : Int
  waiters : List τ

namespace Semaphore

/-- `acquire`, past `throwIfAborted`: whether the permit is had at once. -/
def acquire (limit : Limit) (semaphore : Semaphore τ) (wake : τ) : Bool × Semaphore τ :=
  if semaphore.active < limit.permits then
    (true, { semaphore with active := semaphore.active + 1 })
  else (false, { semaphore with waiters := semaphore.waiters ++ [wake] })

/-- `release`; the first waiter is woken and counts itself in. -/
def release (semaphore : Semaphore τ) : Option τ × Semaphore τ :=
  match semaphore.waiters with
  | [] => (none, { semaphore with active := semaphore.active - 1 })
  | wake :: waiters => (some wake, ⟨semaphore.active - 1 + 1, waiters⟩)

/-- The `abort` listeners of the waiters whose signal is aborted. -/
def abort (semaphore : Semaphore τ) (aborted : τ → Bool) : Semaphore τ :=
  { semaphore with waiters := semaphore.waiters.filter fun wake => !aborted wake }

end Semaphore

/-! ## Calls of `use` -/

/-- The semaphore with the calls that hold a permit, and whether their operation was called. -/
structure Connections (τ : Type) where
  semaphore : Semaphore τ
  holders : List (τ × Bool)

namespace Connections

/-- Nobody has asked yet. -/
def idle : Connections τ := ⟨⟨0, []⟩, []⟩

/-- The calls that are under way. -/
def tickets (c : Connections τ) : List τ := c.semaphore.waiters ++ c.holders.map Prod.fst

/-- `use` up to its `await this.acquire(signal)`, where the signal is not aborted. -/
def ask (limit : Limit) (c : Connections τ) (ticket : τ) : Connections τ :=
  match c.semaphore.acquire limit ticket with
  | (true, semaphore) => ⟨semaphore, (ticket, false) :: c.holders⟩
  | (false, semaphore) => ⟨semaphore, c.holders⟩

/-- `abort` is dispatched to the signals of some calls. -/
def abort (c : Connections τ) (aborted : τ → Bool) : Connections τ :=
  { c with semaphore := c.semaphore.abort aborted }

variable [DecidableEq τ]

/-- A holder goes on after `await this.acquire(signal)`: it calls its operation. -/
def begin (c : Connections τ) (ticket : τ) : Connections τ :=
  { c with holders := c.holders.map fun holder =>
      if holder.1 = ticket then (ticket, true) else holder }

/-- The operation of a holder has settled: `finally` releases its permit. -/
def settle (c : Connections τ) (ticket : τ) : Connections τ :=
  let holders := c.holders.eraseP fun holder => holder.1 = ticket
  match c.semaphore.release with
  | (none, semaphore) => ⟨semaphore, holders⟩
  | (some wake, semaphore) => ⟨semaphore, (wake, false) :: holders⟩

end Connections

/-- What happens at the semaphore. -/
inductive UseEvent (τ : Type)
  | refused (ticket : τ)
  | asks (ticket : τ)
  | begins (ticket : τ)
  | settles (ticket : τ)
  | aborts (aborted : τ → Bool)

variable [DecidableEq τ]

/-- One turn of one call of `use`, or of the signals.  A call whose signal is aborted already is
refused at `throwIfAborted`. -/
inductive UseStep (limit : Limit) : Connections τ → UseEvent τ → Connections τ → Prop
  | refused (c : Connections τ) (ticket : τ) : UseStep limit c (.refused ticket) c
  | asks {c : Connections τ} {ticket : τ} (fresh : ticket ∉ c.tickets) :
      UseStep limit c (.asks ticket) (c.ask limit ticket)
  | begins {c : Connections τ} {ticket : τ} (granted : (ticket, false) ∈ c.holders) :
      UseStep limit c (.begins ticket) (c.begin ticket)
  | settles {c : Connections τ} {ticket : τ} (running : (ticket, true) ∈ c.holders) :
      UseStep limit c (.settles ticket) (c.settle ticket)
  | aborts (c : Connections τ) (aborted : τ → Bool) :
      UseStep limit c (.aborts aborted) (c.abort aborted)

/-! ## One step -/

section Steps

omit [DecidableEq τ]

variable {limit : Limit} {c : Connections τ} {ticket : τ}

/-- Asking while a permit is left. -/
theorem ask_granted (room : c.semaphore.active < limit.permits) :
    c.ask limit ticket =
      ⟨⟨c.semaphore.active + 1, c.semaphore.waiters⟩, (ticket, false) :: c.holders⟩ := by
  simp [Connections.ask, Semaphore.acquire, room]

/-- Asking while none is. -/
theorem ask_waits (full : ¬ c.semaphore.active < limit.permits) :
    c.ask limit ticket =
      ⟨⟨c.semaphore.active, c.semaphore.waiters ++ [ticket]⟩, c.holders⟩ := by
  simp [Connections.ask, Semaphore.acquire, full]

@[simp] theorem abort_holders (aborted : τ → Bool) : (c.abort aborted).holders = c.holders := rfl

@[simp] theorem abort_waiters (aborted : τ → Bool) : (c.abort aborted).semaphore.waiters =
    c.semaphore.waiters.filter fun wake => !aborted wake := rfl

variable [DecidableEq τ]

/-- Giving back a permit nobody waits for. -/
theorem settle_alone (alone : c.semaphore.waiters = []) :
    c.settle ticket =
      ⟨⟨c.semaphore.active - 1, []⟩, c.holders.eraseP fun holder => holder.1 = ticket⟩ := by
  simp [Connections.settle, Semaphore.release, alone]

/-- Handing a permit on. -/
theorem settle_hands {wake : τ} {waiters : List τ} (first : c.semaphore.waiters = wake :: waiters) :
    c.settle ticket = ⟨⟨c.semaphore.active - 1 + 1, waiters⟩,
      (wake, false) :: c.holders.eraseP fun holder => holder.1 = ticket⟩ := by
  simp [Connections.settle, Semaphore.release, first]

@[simp] theorem begin_semaphore : (c.begin ticket).semaphore = c.semaphore := rfl

@[simp] theorem begin_names : (c.begin ticket).holders.map Prod.fst = c.holders.map Prod.fst := by
  rw [Connections.begin, List.map_map]
  apply List.map_congr_left
  intro holder member
  by_cases same : holder.1 = ticket <;> simp [same]

theorem begin_length : (c.begin ticket).holders.length = c.holders.length := by
  simp [Connections.begin]

/-- The names of the holders that are left. -/
theorem erased_names (holders : List (τ × Bool)) :
    (holders.eraseP fun holder => holder.1 = ticket).map Prod.fst =
      (holders.map Prod.fst).erase ticket := by
  induction holders with
  | nil => rfl
  | cons holder holders ih =>
      by_cases same : holder.1 = ticket
      · simp [same]
      · simp [same, ih]

theorem erased_length {holders : List (τ × Bool)} {called : Bool}
    (member : (ticket, called) ∈ holders) :
    (holders.eraseP fun holder => holder.1 = ticket).length + 1 = holders.length := by
  have positive : 0 < holders.length := List.length_pos_of_mem member
  have erased := List.length_eraseP_of_mem (p := fun holder : τ × Bool => holder.1 = ticket)
    member (by simp)
  omega

end Steps

/-! ## The invariant -/

/-- The permits that are out are counted, a call waits only while all are out, and each call is
under way once. -/
structure Uses (limit : Limit) (c : Connections τ) : Prop where
  counted : c.semaphore.active = c.holders.length
  full : c.semaphore.waiters ≠ [] → limit.permits ≤ c.holders.length
  distinct : c.tickets.Nodup

namespace Uses

variable {limit : Limit} {c after : Connections τ} {ticket : τ}

omit [DecidableEq τ] in
theorem idle (limit : Limit) : Uses limit (Connections.idle : Connections τ) where
  counted := rfl
  full waits := absurd rfl waits
  distinct := List.nodup_nil

omit [DecidableEq τ] in
theorem ask (uses : Uses limit c) (fresh : ticket ∉ c.tickets) : Uses limit (c.ask limit ticket) := by
  have counted := uses.counted
  have distinct := List.nodup_cons.2 ⟨fresh, uses.distinct⟩
  by_cases room : c.semaphore.active < limit.permits
  · rw [ask_granted room]
    refine ⟨?_, fun waits => ?_, ?_⟩
    · simp [counted]
    · have full := uses.full waits
      omega
    · have moved : (c.semaphore.waiters ++ ticket :: c.holders.map Prod.fst).Perm
          (ticket :: c.tickets) := List.perm_middle
      exact moved.nodup_iff.2 distinct
  · rw [ask_waits room]
    refine ⟨counted, fun _ => ?_, ?_⟩
    · show limit.permits ≤ c.holders.length
      omega
    · show ((c.semaphore.waiters ++ [ticket]) ++ c.holders.map Prod.fst).Nodup
      rw [List.append_assoc]
      have moved : (c.semaphore.waiters ++ ([ticket] ++ c.holders.map Prod.fst)).Perm
          (ticket :: c.tickets) := List.perm_middle
      exact moved.nodup_iff.2 distinct

theorem begin (uses : Uses limit c) : Uses limit (c.begin ticket) where
  counted := by
    rw [begin_semaphore, begin_length]
    exact uses.counted
  full := by
    rw [begin_semaphore, begin_length]
    exact uses.full
  distinct := by
    rw [Connections.tickets, begin_semaphore, begin_names]
    exact uses.distinct

theorem settle {called : Bool} (uses : Uses limit c) (holds : (ticket, called) ∈ c.holders) :
    Uses limit (c.settle ticket) := by
  have counted := uses.counted
  have left := erased_length holds
  have distinct := uses.distinct
  cases waiters : c.semaphore.waiters with
  | nil =>
      rw [settle_alone waiters]
      refine ⟨?_, fun waits => absurd rfl waits, ?_⟩
      · show c.semaphore.active - 1 =
          ((c.holders.eraseP fun holder => holder.1 = ticket).length : Int)
        omega
      · rw [Connections.tickets, waiters, List.nil_append] at distinct
        rw [Connections.tickets, List.nil_append, erased_names]
        exact distinct.erase ticket
  | cons wake rest =>
      have full := uses.full (by simp [waiters])
      rw [settle_hands waiters]
      refine ⟨?_, fun _ => ?_, ?_⟩
      · simp only [List.length_cons]
        omega
      · simp only [List.length_cons]
        omega
      · rw [Connections.tickets, waiters] at distinct
        have smaller : (rest ++ wake :: (c.holders.map Prod.fst).erase ticket).Nodup := by
          rw [List.perm_middle.nodup_iff]
          exact distinct.sublist (List.Sublist.append_left List.erase_sublist (wake :: rest))
        rw [Connections.tickets, List.map_cons, erased_names]
        exact smaller

omit [DecidableEq τ] in
theorem abort (uses : Uses limit c) (aborted : τ → Bool) : Uses limit (c.abort aborted) where
  counted := uses.counted
  full waits := by
    apply uses.full
    intro none
    simp [none] at waits
  distinct := uses.distinct.sublist (List.Sublist.append_right List.filter_sublist _)

/-- Every turn keeps it. -/
theorem step {event : UseEvent τ} (uses : Uses limit c) (step : UseStep limit c event after) :
    Uses limit after := by
  cases step with
  | refused => exact uses
  | asks fresh => exact uses.ask fresh
  | begins granted => exact uses.begin
  | settles running => exact uses.settle running
  | aborts aborted => exact uses.abort aborted

end Uses

/-! ## Who is where after a step -/

section Members

variable {limit : Limit} {c : Connections τ} {ticket other : τ} {called : Bool}

omit [DecidableEq τ] in
theorem mem_tickets_ask : other ∈ (c.ask limit ticket).tickets ↔ other = ticket ∨ other ∈ c.tickets := by
  by_cases room : c.semaphore.active < limit.permits
  · rw [ask_granted room]
    simp only [Connections.tickets, List.map_cons, List.mem_append, List.mem_cons]
    constructor
    · rintro (waits | same | holds)
      · exact .inr (.inl waits)
      · exact .inl same
      · exact .inr (.inr holds)
    · rintro (same | waits | holds)
      · exact .inr (.inl same)
      · exact .inl waits
      · exact .inr (.inr holds)
  · rw [ask_waits room]
    simp only [Connections.tickets, List.mem_append, List.mem_singleton]
    constructor
    · rintro ((waits | same) | holds)
      · exact .inr (.inl waits)
      · exact .inl same
      · exact .inr (.inr holds)
    · rintro (same | waits | holds)
      · exact .inl (.inr same)
      · exact .inl (.inl waits)
      · exact .inr holds

omit [DecidableEq τ] in
theorem holder_ask (holds : (other, called) ∈ c.holders) :
    (other, called) ∈ (c.ask limit ticket).holders := by
  by_cases room : c.semaphore.active < limit.permits
  · rw [ask_granted room]
    exact List.mem_cons_of_mem _ holds
  · rw [ask_waits room]
    exact holds

theorem tickets_begin : (c.begin ticket).tickets = c.tickets := by
  rw [Connections.tickets, begin_semaphore, begin_names, Connections.tickets]

theorem running_begin (holds : (other, true) ∈ c.holders) :
    (other, true) ∈ (c.begin ticket).holders := by
  refine List.mem_map.2 ⟨_, holds, ?_⟩
  by_cases same : other = ticket <;> simp [same]

theorem begin_running (holds : (ticket, called) ∈ c.holders) :
    (ticket, true) ∈ (c.begin ticket).holders :=
  List.mem_map.2 ⟨_, holds, if_pos rfl⟩

/-- Whoever is under way after a permit came back was so before, and is not its holder. -/
theorem Uses.tickets_settle (uses : Uses limit c) (holds : (ticket, called) ∈ c.holders)
    (there : other ∈ (c.settle ticket).tickets) : other ∈ c.tickets ∧ other ≠ ticket := by
  have distinct := uses.distinct
  have names : (c.settle ticket).tickets ⊆
      c.semaphore.waiters ++ (c.holders.map Prod.fst).erase ticket := by
    cases waiters : c.semaphore.waiters with
    | nil =>
        rw [settle_alone waiters, Connections.tickets, erased_names]
        exact fun _ member => member
    | cons wake rest =>
        rw [settle_hands waiters, Connections.tickets, List.map_cons, erased_names]
        exact List.perm_middle.subset
  have member : ticket ∈ c.holders.map Prod.fst := List.mem_map.2 ⟨_, holds, rfl⟩
  obtain ⟨-, once, apart⟩ := List.nodup_append.1 distinct
  rcases List.mem_append.1 (names there) with waits | left
  · refine ⟨List.mem_append_left _ waits, ?_⟩
    exact apart other waits ticket member
  · obtain ⟨different, before⟩ := once.mem_erase_iff.1 left
    exact ⟨List.mem_append_right _ before, different⟩

theorem running_settle (holds : (other, true) ∈ c.holders) (different : other ≠ ticket) :
    (other, true) ∈ (c.settle ticket).holders := by
  have kept : (other, true) ∈ c.holders.eraseP fun holder => holder.1 = ticket :=
    (List.mem_eraseP_of_neg (by simp [different])).2 holds
  cases waiters : c.semaphore.waiters with
  | nil =>
      rw [settle_alone waiters]
      exact kept
  | cons wake rest =>
      rw [settle_hands waiters]
      exact List.mem_cons_of_mem _ kept

omit [DecidableEq τ] in
theorem tickets_abort {aborted : τ → Bool} (there : other ∈ (c.abort aborted).tickets) :
    other ∈ c.tickets := by
  rcases List.mem_append.1 there with waits | holds
  · exact List.mem_append_left _ (List.mem_filter.1 waits).1
  · exact List.mem_append_right _ holds

end Members

/-! ## The pool of permits -/

/-- The calls that hold a permit, and those that wait for one. -/
def Connections.pool (c : Connections τ) : Permits.Pool τ :=
  ⟨c.holders.map Prod.fst, c.semaphore.waiters⟩

section Pool

open Permits (weigh)

variable {limit : Limit} {c after : Connections τ} {event : UseEvent τ} {events : List (UseEvent τ)}

/-- A permit of the semaphore weighs one. -/
def single : τ → Nat := fun _ => 1

omit [DecidableEq τ] in
theorem weigh_single (calls : List τ) : weigh single calls = calls.length := by
  induction calls with
  | nil => rfl
  | cons call calls ih => simp [ih, single, Nat.add_comm]

omit [DecidableEq τ] in
/-- Waiters give up one after the other. -/
theorem gives_up (held : List τ) (aborted : τ → Bool) (front waiters : List τ) :
    ∃ events, Trace (Permits.Step limit.permits single) ⟨held, front ++ waiters⟩ events
      ⟨held, front ++ waiters.filter fun wake => !aborted wake⟩ := by
  induction waiters generalizing front with
  | nil => exact ⟨[], .nil _⟩
  | cons wake waiters ih =>
      cases gone : aborted wake with
      | true =>
          obtain ⟨events, run⟩ := ih front
          have erased : (front ++ wake :: waiters).eraseIdx front.length = front ++ waiters := by
            simp [List.eraseIdx_append_of_length_le]
          have first : Permits.Step limit.permits single ⟨held, front ++ wake :: waiters⟩
              (.gaveUp front.length) ⟨held, front ++ waiters⟩ := erased ▸ .gaveUp front.length
          have kept : (wake :: waiters).filter (fun wake => !aborted wake) =
              waiters.filter fun wake => !aborted wake := by
            simp [gone]
          rw [kept]
          exact ⟨_, .cons first run⟩
      | false =>
          obtain ⟨events, run⟩ := ih (front ++ [wake])
          refine ⟨events, ?_⟩
          rw [List.append_assoc, List.append_assoc] at run
          rw [List.filter_cons_of_pos (by simp [gone])]
          exact run

/-- A call gives its permit back. -/
theorem gives_back {ticket : τ} {called : Bool} (holds : (ticket, called) ∈ c.holders)
    (waiting : List τ) : ∃ place, Permits.Step limit.permits single
      ⟨c.holders.map Prod.fst, waiting⟩ (.released place)
      ⟨(c.holders.eraseP fun holder => holder.1 = ticket).map Prod.fst, waiting⟩ := by
  have member : ticket ∈ c.holders.map Prod.fst := List.mem_map.2 ⟨_, holds, rfl⟩
  refine ⟨(c.holders.map Prod.fst).idxOf ticket, ?_⟩
  rw [erased_names, List.erase_eq_eraseIdx_of_idxOf rfl]
  exact .released _

/-- **A call of `use` is a job of the pool.**  Each turn is what the pool does in no, one or two
steps. -/
theorem use_refines (uses : Uses limit c) (within : c.holders.length ≤ limit.permits)
    (step : UseStep limit c event after) :
    ∃ events, Trace (Permits.Step limit.permits single) c.pool events after.pool := by
  have counted := uses.counted
  cases step with
  | refused => exact ⟨[], .nil _⟩
  | @asks ticket fresh =>
      by_cases room : c.semaphore.active < limit.permits
      · -- a permit is left, so nobody waits and the call is granted as soon as it is in line
        have alone : c.semaphore.waiters = [] := by
          apply Decidable.byContradiction
          intro waits
          have full := uses.full waits
          omega
        have fits : weigh single (c.holders.map Prod.fst) + single ticket ≤ limit.permits := by
          rw [weigh_single, List.length_map]
          show c.holders.length + 1 ≤ limit.permits
          omega
        rw [ask_granted room]
        unfold Connections.pool
        rw [alone]
        exact ⟨_, .cons (.queued ticket) (.single (.granted fits))⟩
      · rw [ask_waits room]
        exact ⟨_, .single (.queued ticket)⟩
  | begins granted =>
      refine ⟨[], ?_⟩
      rw [Connections.pool, Connections.pool, begin_names, begin_semaphore]
      exact .nil _
  | @settles ticket running =>
      cases waiters : c.semaphore.waiters with
      | nil =>
          obtain ⟨place, released⟩ := gives_back running []
          rw [settle_alone waiters]
          unfold Connections.pool
          rw [waiters]
          exact ⟨_, .single released⟩
      | cons wake rest =>
          -- the permit comes back and goes on to the first in line
          obtain ⟨place, released⟩ := gives_back running (wake :: rest)
          have left := erased_length running
          have fits : weigh single ((c.holders.eraseP fun holder => holder.1 = ticket).map Prod.fst) +
              single wake ≤ limit.permits := by
            rw [weigh_single, List.length_map]
            show (c.holders.eraseP fun holder => holder.1 = ticket).length + 1 ≤ limit.permits
            omega
          rw [settle_hands waiters]
          unfold Connections.pool
          rw [waiters]
          exact ⟨_, .cons released (.single (.granted fits))⟩
  | aborts aborted => exact gives_up (c.holders.map Prod.fst) aborted [] c.semaphore.waiters

/-- What every run of the calls keeps: the invariant, and a run of the pool to the same calls. -/
theorem uses_refine (run : Trace (UseStep limit) Connections.idle events c) :
    Uses limit c ∧ ∃ steps, Trace (Permits.Step limit.permits single)
      (Connections.idle : Connections τ).pool steps c.pool := by
  refine run.keeps (P := fun c => Uses limit c ∧ ∃ steps, Trace (Permits.Step limit.permits single)
    (Connections.idle : Connections τ).pool steps c.pool) ?_ ⟨.idle limit, [], .nil _⟩
  rintro c event after step ⟨uses, steps, pool⟩
  have within := Permits.weight_held_le pool (Nat.zero_le _)
  rw [weigh_single] at within
  simp only [Connections.pool, List.length_map] at within
  obtain ⟨more, goes⟩ := use_refines uses within step
  exact ⟨uses.step step, _, pool.append goes⟩

end Pool

/-! ## Bounds -/

/-- The calls whose operation is under way. -/
def Connections.running (c : Connections τ) : List (τ × Bool) :=
  c.holders.filter fun holder => holder.2

/-- No more than the limit are out, each with its holder; a call waits only while all are out;
and once no call holds a permit none is out and nobody waits. -/
structure UsesBounded (limit : Limit) (c : Connections τ) : Prop where
  counted : c.semaphore.active = c.holders.length
  distinct : c.tickets.Nodup
  within : c.semaphore.active ≤ limit.permits
  running : c.running.length ≤ limit.permits
  full : c.semaphore.waiters ≠ [] → c.semaphore.active = limit.permits
  settled : c.holders = [] → c.semaphore.active = 0 ∧ c.semaphore.waiters = []

/-- **The semaphore is within its limit in every run.** -/
theorem uses_bounded {limit : Limit} {c : Connections τ} {events : List (UseEvent τ)}
    (run : Trace (UseStep limit) Connections.idle events c) : UsesBounded limit c := by
  obtain ⟨uses, steps, pool⟩ := uses_refine run
  have within := Permits.weight_held_le pool (Nat.zero_le _)
  rw [weigh_single] at within
  simp only [Connections.pool, List.length_map] at within
  have counted := uses.counted
  refine ⟨counted, uses.distinct, by omega, ?_, fun waits => ?_, fun none => ?_⟩
  · exact Nat.le_trans (List.length_filter_le _ _) within
  · have full := uses.full waits
    omega
  · rw [none] at counted
    refine ⟨counted, ?_⟩
    apply Decidable.byContradiction
    intro waits
    have full := uses.full waits
    have positive := limit.positive
    rw [none] at full
    simp only [List.length_nil] at full
    omega

end MediaBooster.Browser
