/-
# Browser.Pacing -- when the browser's control requests start

`controlledRequest` waits at a `StartRateGate` and then for a permit of a `Semaphore`; only then
does it call its operation.  The gate lets its callers through one after the other, each at least
an interval after the one before.  The semaphore comes after the gate: a caller that has passed may
wait there for as long as slow requests hold the permits, and as many callers as are in line start
together when the permits come back.

The clock stands still while a call is ready to go on.

* `gate_paced`: callers pass the gate an interval apart in every run.
* `burst`: two requests start ten milliseconds apart.
* `starts_paced`: where nobody passes the gate while no permit is left, the starts are an interval
  apart.
-/
import MediaBooster.Browser.Semaphore

namespace MediaBooster.Browser

set_option autoImplicit false

open MediaBooster.Theory.Run

/-! ## Requests at the gate -/

/-- What the requests are paced with. -/
structure Pace where
  interval : Nat
  positive : 1 ≤ interval
  limit : Limit

/-- `CONTROL_REQUEST_INTERVAL_MS`. -/
def controlRequestIntervalMs : Nat := 125

theorem controlRequestInterval_pos : 0 < controlRequestIntervalMs := by decide

/-- The clock; the gate, with its line of callers and the timer of the first of them; the callers
that have passed it and not yet asked for a permit; the connections; and when callers passed and
operations were called, in their order. -/
structure Pacing where
  now : Nat
  nextStartAt : Nat
  line : List Nat
  timer : Option Nat
  passed : List Nat
  connections : Connections Nat
  arrived : List Nat
  passes : List Nat
  starts : List (Nat × Nat)

namespace Pacing

/-- A new gate and a new semaphore. -/
def initial (now : Nat) : Pacing where
  now := now
  nextStartAt := 0
  line := []
  timer := none
  passed := []
  connections := .idle
  arrived := []
  passes := []
  starts := []

/-- `Math.max(0, this.nextStartAt - Date.now())`. -/
def delay (p : Pacing) : Nat := p.nextStartAt - p.now

/-- The first in line goes through: the next start is set, and the line moves up. -/
def pass (pace : Pace) (p : Pacing) (request : Nat) (rest : List Nat) : Pacing :=
  { p with
    nextStartAt := p.now + pace.interval
    line := rest
    timer := none
    passed := p.passed ++ [request]
    passes := p.passes ++ [p.now] }

/-- Those who hold a permit whose operation has not been called. -/
def granted (p : Pacing) : List (Nat × Bool) := p.connections.holders.filter fun holder => !holder.2

/-- No caller is between the gate and its operation but in the line of the semaphore. -/
def Still (p : Pacing) : Prop := p.passed = [] ∧ p.granted = []

end Pacing

/-- What happens to the requests. -/
inductive PaceEvent
  | arrives (request : Nat)
  | delays
  | passes
  | fires
  | leaves
  | asks (request : Nat)
  | withdraws (request : Nat)
  | begins (request : Nat)
  | settles (request : Nat)
  | aborts (aborted : Nat → Bool)
  | ticks (milliseconds : Nat)

/-- One turn of one request, or of the clock.  The first in line delays or passes; it leaves where
its signal is aborted.  A timer is not early. -/
inductive PaceStep (pace : Pace) : Pacing → PaceEvent → Pacing → Prop
  | arrives {p : Pacing} {request : Nat} (fresh : request ∉ p.arrived) :
      PaceStep pace p (.arrives request)
        { p with line := p.line ++ [request], arrived := request :: p.arrived }
  | delays {p : Pacing} {request : Nat} {rest : List Nat} (first : p.line = request :: rest)
      (idle : p.timer = none) (early : 0 < p.delay) :
      PaceStep pace p .delays { p with timer := some (p.now + p.delay) }
  | passes {p : Pacing} {request : Nat} {rest : List Nat} (first : p.line = request :: rest)
      (idle : p.timer = none) (due : p.delay = 0) :
      PaceStep pace p .passes (p.pass pace request rest)
  | fires {p : Pacing} {request due : Nat} {rest : List Nat} (first : p.line = request :: rest)
      (timer : p.timer = some due) (late : due ≤ p.now) :
      PaceStep pace p .fires (p.pass pace request rest)
  | leaves {p : Pacing} {request : Nat} {rest : List Nat} (first : p.line = request :: rest) :
      PaceStep pace p .leaves { p with line := rest, timer := none }
  | asks {p : Pacing} {request : Nat} (through : request ∈ p.passed) :
      PaceStep pace p (.asks request)
        { p with
          passed := p.passed.erase request
          connections := p.connections.ask pace.limit request }
  | withdraws {p : Pacing} {request : Nat} (through : request ∈ p.passed) :
      PaceStep pace p (.withdraws request) { p with passed := p.passed.erase request }
  | begins {p : Pacing} {request : Nat} (granted : (request, false) ∈ p.connections.holders) :
      PaceStep pace p (.begins request)
        { p with
          connections := p.connections.begin request
          starts := p.starts ++ [(request, p.now)] }
  | settles {p : Pacing} {request : Nat} (running : (request, true) ∈ p.connections.holders) :
      PaceStep pace p (.settles request)
        { p with connections := p.connections.settle request }
  | aborts (p : Pacing) (aborted : Nat → Bool) :
      PaceStep pace p (.aborts aborted) { p with connections := p.connections.abort aborted }
  | ticks {p : Pacing} (still : p.Still) (milliseconds : Nat) :
      PaceStep pace p (.ticks milliseconds) { p with now := p.now + milliseconds }

/-- Requests start an interval apart. -/
def Spaced (interval : Nat) (starts : List (Nat × Nat)) : Prop :=
  starts.Pairwise fun earlier later => earlier.2 + interval ≤ later.2

/-! ## The gate -/

section Gate

variable {pace : Pace} {p after : Pacing} {event : PaceEvent} {events : List PaceEvent}

/-- The gate opens an interval after it last let somebody through, and no timer is set for an
earlier instant. -/
structure GatePaced (pace : Pace) (p : Pacing) : Prop where
  spaced : p.passes.Pairwise fun earlier later => earlier + pace.interval ≤ later
  last : ∀ instant ∈ p.passes, instant + pace.interval ≤ p.nextStartAt
  timer : ∀ due, p.timer = some due → p.nextStartAt ≤ due

namespace GatePaced

theorem pass (gate : GatePaced pace p) (due : p.nextStartAt ≤ p.now) (request : Nat)
    (rest : List Nat) : GatePaced pace (p.pass pace request rest) where
  spaced := by
    refine List.pairwise_append.2 ⟨gate.spaced, List.pairwise_singleton _ _, ?_⟩
    intro earlier there later new
    rw [List.mem_singleton.1 new]
    exact Nat.le_trans (gate.last earlier there) due
  last instant there := by
    show instant + pace.interval ≤ p.now + pace.interval
    rcases List.mem_append.1 there with before | new
    · have last := gate.last instant before
      omega
    · have now := List.mem_singleton.1 new
      omega
  timer _ none := by cases none

theorem step (gate : GatePaced pace p) (step : PaceStep pace p event after) :
    GatePaced pace after := by
  cases step with
  | delays first idle early =>
      refine { gate with timer := ?_ }
      rintro _ ⟨⟩
      show p.nextStartAt ≤ p.now + (p.nextStartAt - p.now)
      omega
  | passes first idle due =>
      apply gate.pass
      unfold Pacing.delay at due
      omega
  | fires first timer late =>
      apply gate.pass
      exact Nat.le_trans (gate.timer _ timer) late
  | leaves => exact { gate with timer := by rintro _ ⟨⟩ }
  | arrives | asks | withdraws | begins | settles | aborts | ticks => exact { gate with }

end GatePaced

/-- **Callers pass the gate an interval apart.** -/
theorem gate_paced {now : Nat} (run : Trace (PaceStep pace) (.initial now) events p) :
    GatePaced pace p := by
  apply run.keeps (fun _ _ _ step gate => GatePaced.step gate step)
  refine ⟨List.Pairwise.nil, fun _ there => ?_, fun _ timer => ?_⟩
  · cases there
  · cases timer

end Gate

/-! ## The starts -/

/-- A caller passes the gate only while a permit is left. -/
def PermitLeft (pace : Pace) (p : Pacing) : PaceEvent → Prop
  | .passes | .fires => p.connections.semaphore.active < pace.limit.permits
  | _ => True

section Starts

variable {pace : Pace} {p after : Pacing} {event : PaceEvent} {events : List PaceEvent}

/-- Whoever has passed the gate is the only one on the way to its operation, passed in this
instant, and finds its permit; all that started before did so an interval ago. -/
structure OnPace (pace : Pace) (p : Pacing) : Prop where
  spaced : Spaced pace.interval p.starts
  last : ∀ start ∈ p.starts, start.2 + pace.interval ≤ p.nextStartAt
  timer : ∀ due, p.timer = some due → p.nextStartAt ≤ due
  alone : p.passed.length + p.granted.length ≤ 1
  moment : 0 < p.passed.length + p.granted.length → p.nextStartAt = p.now + pace.interval
  quiet : 0 < p.passed.length + p.granted.length →
    ∀ start ∈ p.starts, start.2 + pace.interval ≤ p.now
  nobody : p.connections.semaphore.waiters = []
  room : 0 < p.passed.length → p.connections.semaphore.active < pace.limit.permits

namespace OnPace

theorem initial (now : Nat) : OnPace pace (.initial now) where
  spaced := List.Pairwise.nil
  last _ there := by cases there
  timer _ timer := by cases timer
  alone := Nat.zero_le 1
  moment waits := absurd waits (Nat.lt_irrefl 0)
  quiet waits := absurd waits (Nat.lt_irrefl 0)
  nobody := rfl
  room waits := absurd waits (Nat.lt_irrefl 0)

/-- When the gate opens, nobody is on the way any more. -/
theorem pass (on : OnPace pace p) (due : p.nextStartAt ≤ p.now)
    (left : p.connections.semaphore.active < pace.limit.permits) (request : Nat)
    (rest : List Nat) : OnPace pace (p.pass pace request rest) := by
  have none : p.passed.length + p.granted.length = 0 := by
    apply Nat.eq_zero_of_not_pos
    intro waits
    have moment := on.moment waits
    have positive := pace.positive
    omega
  have passed : (p.pass pace request rest).passed.length = p.passed.length + 1 := by
    simp [Pacing.pass]
  have granted : (p.pass pace request rest).granted = p.granted := rfl
  refine ⟨on.spaced, ?_, ?_, ?_, fun _ => rfl, ?_, on.nobody, fun _ => left⟩
  · intro start there
    show start.2 + pace.interval ≤ p.now + pace.interval
    have last := on.last start there
    omega
  · intro _ timer
    cases timer
  · rw [passed, granted]
    omega
  · intro _ start there
    exact Nat.le_trans (on.last start there) due

/-- Fewer on the way. -/
theorem fewer (on : OnPace pace p) {passed : List Nat} {connections : Connections Nat}
    (shorter : passed.length ≤ p.passed.length)
    (unbegun : (connections.holders.filter fun holder => !holder.2).length ≤ p.granted.length)
    (nobody : connections.semaphore.waiters = [])
    (active : connections.semaphore.active ≤ p.connections.semaphore.active) :
    OnPace pace { p with passed := passed, connections := connections } := by
  have alone := on.alone
  have fewer : passed.length + (connections.holders.filter fun holder => !holder.2).length ≤
      p.passed.length + p.granted.length := by omega
  refine ⟨on.spaced, on.last, on.timer, Nat.le_trans fewer alone, ?_, ?_, nobody, ?_⟩
  · intro waits
    exact on.moment (Nat.lt_of_lt_of_le waits fewer)
  · intro waits
    exact on.quiet (Nat.lt_of_lt_of_le waits fewer)
  · intro waits
    have room := on.room (Nat.lt_of_lt_of_le waits shorter)
    show connections.semaphore.active < _
    omega

/-- Whoever asks has its permit at once. -/
theorem asks (on : OnPace pace p) {request : Nat} (through : request ∈ p.passed) :
    OnPace pace { p with
      passed := p.passed.erase request
      connections := p.connections.ask pace.limit request } := by
  have there : 0 < p.passed.length := List.length_pos_of_mem through
  have erased := List.length_erase_of_mem through
  have alone := on.alone
  rw [ask_granted (on.room there)]
  have granted : ((((request, false) :: p.connections.holders).filter
      fun holder => !holder.2)).length = p.granted.length + 1 := rfl
  refine ⟨on.spaced, on.last, on.timer, ?_, ?_, ?_, on.nobody, ?_⟩
  · show (p.passed.erase request).length + (((request, false) :: p.connections.holders).filter
      fun holder => !holder.2).length ≤ 1
    rw [granted]
    omega
  · intro _
    exact on.moment (by omega)
  · intro _
    exact on.quiet (by omega)
  · intro waits
    have some : 0 < (p.passed.erase request).length := waits
    omega

/-- Nobody is on the way once the one that was has started. -/
theorem begin_none (on : OnPace pace p) {request : Nat}
    (granted : (request, false) ∈ p.connections.holders) :
    p.passed.length = 0 ∧
      ((p.connections.begin request).holders.filter fun holder => !holder.2) = [] := by
  have member : (request, false) ∈ p.granted := List.mem_filter.2 ⟨granted, rfl⟩
  have some := List.length_pos_of_mem member
  have alone := on.alone
  obtain ⟨single, only⟩ : ∃ holder, p.granted = [holder] :=
    List.length_eq_one_iff.1 (by omega)
  rw [only, List.mem_singleton] at member
  refine ⟨by omega, List.filter_eq_nil_iff.2 ?_⟩
  intro holder there waits
  obtain ⟨before, held, same⟩ := List.mem_map.1 there
  by_cases own : before.1 = request
  · rw [if_pos own] at same
    rw [← same] at waits
    cases waits
  · rw [if_neg own] at same
    rw [← same] at waits
    have waiting : before ∈ p.granted := List.mem_filter.2 ⟨held, waits⟩
    rw [only, List.mem_singleton, ← member] at waiting
    exact own (congrArg Prod.fst waiting)

theorem begins (on : OnPace pace p) {request : Nat}
    (granted : (request, false) ∈ p.connections.holders) :
    OnPace pace { p with
      connections := p.connections.begin request
      starts := p.starts ++ [(request, p.now)] } := by
  obtain ⟨passed, unbegun⟩ := on.begin_none granted
  have some : 0 < p.passed.length + p.granted.length := by
    have member : (request, false) ∈ p.granted := List.mem_filter.2 ⟨granted, rfl⟩
    have here := List.length_pos_of_mem member
    omega
  have moment := on.moment some
  have none : p.passed.length +
      ((p.connections.begin request).holders.filter fun holder => !holder.2).length = 0 := by
    rw [passed, unbegun]
    rfl
  refine ⟨?_, ?_, on.timer, Nat.le_trans (Nat.le_of_eq none) (Nat.zero_le 1), ?_, ?_, on.nobody, ?_⟩
  · refine List.pairwise_append.2 ⟨on.spaced, List.pairwise_singleton _ _, ?_⟩
    intro earlier there later new
    rw [List.mem_singleton.1 new]
    exact on.quiet some earlier there
  · intro start there
    show start.2 + pace.interval ≤ p.nextStartAt
    rcases List.mem_append.1 there with before | new
    · exact on.last start before
    · rw [List.mem_singleton.1 new]
      omega
  · intro waits
    exact absurd none (Nat.ne_of_gt waits)
  · intro waits
    exact absurd none (Nat.ne_of_gt waits)
  · intro waits
    exact absurd passed (Nat.ne_of_gt waits)

theorem step (on : OnPace pace p) (step : Guarded (PaceStep pace) (PermitLeft pace) p event after) :
    OnPace pace after := by
  obtain ⟨step, left⟩ := step
  cases step with
  | arrives fresh => exact { on with }
  | delays first idle early =>
      refine { on with timer := ?_ }
      rintro _ ⟨⟩
      show p.nextStartAt ≤ p.now + (p.nextStartAt - p.now)
      omega
  | passes first idle due =>
      refine on.pass ?_ left _ _
      unfold Pacing.delay at due
      omega
  | fires first timer late => exact on.pass (Nat.le_trans (on.timer _ timer) late) left _ _
  | leaves => exact { on with timer := by rintro _ ⟨⟩ }
  | asks through => exact on.asks through
  | @withdraws request through =>
      exact on.fewer (List.length_erase_le) (Nat.le_refl _) on.nobody (Int.le_refl _)
  | begins granted => exact on.begins granted
  | @settles request running =>
      rw [settle_alone on.nobody]
      refine on.fewer (Nat.le_refl _) ?_ rfl (Int.sub_le_self _ (by decide))
      exact (List.eraseP_sublist.filter _).length_le
  | aborts aborted =>
      refine on.fewer (Nat.le_refl _) (Nat.le_refl _) ?_ (Int.le_refl _)
      rw [abort_waiters, on.nobody]
      rfl
  | ticks still milliseconds =>
      obtain ⟨passed, granted⟩ := still
      have none : p.passed.length + p.granted.length = 0 := by
        rw [passed, granted]
        rfl
      exact { on with
        moment := fun waits => absurd none (Nat.ne_of_gt waits)
        quiet := fun waits => absurd none (Nat.ne_of_gt waits) }

end OnPace

/-- **Control requests start an interval apart while permits are left at the gate.**  In every run
in which nobody passes the gate while all permits are out, any two requests start at least the
gate's interval apart. -/
theorem starts_paced {now : Nat}
    (run : Trace (Guarded (PaceStep pace) (PermitLeft pace)) (.initial now) events p) :
    Spaced pace.interval p.starts :=
  (run.keeps (fun _ _ _ step on => OnPace.step on step) (OnPace.initial now)).spaced

end Starts

/-! ## Requests that start together -/

theorem one_permit : 1 ≤ 1 := Nat.le_refl 1

/-- The pace of a batch of which one file is uploaded at a time. -/
def singlePace : Pace where
  interval := controlRequestIntervalMs
  positive := controlRequestInterval_pos
  limit := ⟨1, one_permit⟩

/-- The first request takes a second.  The two after it pass the gate meanwhile and wait for its
permit; the second of them starts as soon as the first of them is answered. -/
def burstTurns : List PaceEvent :=
  [.arrives 0, .passes, .asks 0, .begins 0,
    .arrives 1, .delays, .arrives 2, .ticks 125, .fires, .asks 1,
    .delays, .ticks 125, .fires, .asks 2,
    .ticks 750, .settles 0, .begins 1,
    .ticks 10, .settles 1, .begins 2]

theorem burst : ∃ p, Trace (PaceStep singlePace) (.initial 0) burstTurns p ∧
    p.starts = [(0, 0), (1, 1000), (2, 1010)] := by
  have first : (0 : Nat) ∉ (Pacing.initial 0).arrived := by decide
  refine ⟨_, .cons (.arrives first) (.cons (.passes rfl rfl rfl) (.cons (.asks ?_) (.cons (.begins ?_)
    (.cons (.arrives ?_) (.cons (.delays rfl rfl ?_) (.cons (.arrives ?_) (.cons (.ticks ⟨rfl, rfl⟩ 125)
    (.cons (.fires rfl rfl ?_) (.cons (.asks ?_) (.cons (.delays rfl rfl ?_)
    (.cons (.ticks ⟨rfl, rfl⟩ 125) (.cons (.fires rfl rfl ?_) (.cons (.asks ?_)
    (.cons (.ticks ⟨rfl, rfl⟩ 750) (.cons (.settles ?_) (.cons (.begins ?_)
    (.cons (.ticks ⟨rfl, rfl⟩ 10) (.cons (.settles ?_) (.cons (.begins ?_)
    (.nil _)))))))))))))))))))), rfl⟩
  all_goals decide

/-- **The starts are not always an interval apart.** -/
theorem starts_burst : ¬ ∀ (pace : Pace) (now : Nat) (events : List PaceEvent) (p : Pacing),
    Trace (PaceStep pace) (.initial now) events p → Spaced pace.interval p.starts := by
  intro paced
  obtain ⟨p, run, starts⟩ := burst
  have spaced := paced singlePace 0 burstTurns p run
  rw [starts] at spaced
  have together := (List.pairwise_cons.1 (List.pairwise_cons.1 spaced).2).1 (2, 1010) (by simp)
  exact absurd together (by decide)

/-- The first request is answered before the second is due. -/
def pacedTurns : List PaceEvent :=
  [.arrives 0, .passes, .asks 0, .begins 0, .arrives 1, .delays,
    .ticks 50, .settles 0, .ticks 75, .fires, .asks 1, .begins 1]

theorem paced_run : ∃ p,
    Trace (Guarded (PaceStep singlePace) (PermitLeft singlePace)) (.initial 0) pacedTurns p ∧
      p.starts = [(0, 0), (1, 125)] := by
  have left : (0 : Int) < 1 := by decide
  refine ⟨_, .cons ⟨.arrives ?_, trivial⟩ (.cons ⟨.passes rfl rfl rfl, left⟩
    (.cons ⟨.asks ?_, trivial⟩ (.cons ⟨.begins ?_, trivial⟩
    (.cons ⟨.arrives ?_, trivial⟩ (.cons ⟨.delays rfl rfl ?_, trivial⟩
    (.cons ⟨.ticks ⟨rfl, rfl⟩ 50, trivial⟩ (.cons ⟨.settles ?_, trivial⟩
    (.cons ⟨.ticks ⟨rfl, rfl⟩ 75, trivial⟩ (.cons ⟨.fires rfl rfl ?_, left⟩
    (.cons ⟨.asks ?_, trivial⟩ (.cons ⟨.begins ?_, trivial⟩ (.nil _)))))))))))), rfl⟩
  all_goals decide

/-- **`starts_paced` at two requests of which the first is answered in time.** -/
theorem starts_paced_sample : ∃ p,
    Trace (Guarded (PaceStep singlePace) (PermitLeft singlePace)) (.initial 0) pacedTurns p ∧
      p.starts = [(0, 0), (1, 125)] ∧ Spaced 125 p.starts := by
  obtain ⟨p, run, starts⟩ := paced_run
  exact ⟨p, run, starts, starts_paced run⟩

end MediaBooster.Browser
