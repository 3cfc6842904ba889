/-
# Theory.Gates -- jobs that pass several gates

Each gate is a pool of permits with its queue (`Theory.Permits`).  A job asks at one gate at a
time, at gates of rising rank, for as many permits as it weighs there; what is given back goes
to the head of the queue at once.

`Orderly` is the invariant: no head of a queue fits, and a job that waits holds permits at gates
of lower rank only.

* `free_holder`: where a job waits, some job holds permits and waits for nothing.
* `no_mutual_wait`: no set of jobs waits for each other.
* `granted_after`: once the jobs that hold permits at a gate leave it, its first waiter holds all
  it asked for.
-/
import Mathlib.Data.List.Nodup
import Mathlib.Logic.Function.Basic
import MediaBooster.Theory.Permits

namespace MediaBooster.Theory.Gates

set_option autoImplicit false

open MediaBooster.Theory.Permits MediaBooster.Theory.Run

variable {γ ι : Type}

/-! ## One pool -/

section Settling

variable {capacity : Nat} {weight : ι → Nat}

/-- Grant the heads of a queue that fit. -/
def settle (capacity : Nat) (weight : ι → Nat) (held : List ι) : List ι → Pool ι
  | [] => ⟨held, []⟩
  | job :: waiting =>
      if weigh weight held + weight job ≤ capacity then
        settle capacity weight (job :: held) waiting
      else ⟨held, job :: waiting⟩

variable (capacity weight)

/-- Settling grants, and does nothing else. -/
theorem settle_grants (held waiting : List ι) : ∃ events,
    Trace (Permits.Step capacity weight) ⟨held, waiting⟩ events (settle capacity weight held waiting) := by
  induction waiting generalizing held with
  | nil => exact ⟨[], .nil _⟩
  | cons job waiting ih =>
      unfold settle
      split
      · rename_i fits
        obtain ⟨events, run⟩ := ih (job :: held)
        exact ⟨_, .cons (.granted fits) run⟩
      · exact ⟨[], .nil _⟩

theorem held_subset_settle (held waiting : List ι) :
    held ⊆ (settle capacity weight held waiting).held := by
  induction waiting generalizing held with
  | nil => exact List.Subset.refl _
  | cons job waiting ih =>
      unfold settle
      split
      · exact fun other member => ih (job :: held) (List.mem_cons_of_mem _ member)
      · exact List.Subset.refl _

/-- Settling only moves jobs from the queue to the holders. -/
theorem settle_perm (held waiting : List ι) :
    ((settle capacity weight held waiting).held ++
      (settle capacity weight held waiting).waiting).Perm (held ++ waiting) := by
  induction waiting generalizing held with
  | nil => exact List.Perm.refl _
  | cons job waiting ih =>
      unfold settle
      split
      · exact (ih (job :: held)).trans List.perm_middle.symm
      · exact List.Perm.refl _

theorem settle_waiting_suffix (held waiting : List ι) :
    (settle capacity weight held waiting).waiting <:+ waiting := by
  induction waiting generalizing held with
  | nil => exact List.suffix_refl _
  | cons job waiting ih =>
      unfold settle
      split
      · exact (ih (job :: held)).trans (List.suffix_cons job waiting)
      · exact List.suffix_refl _

variable {capacity weight}

/-- No head of a settled queue fits. -/
theorem settle_head {held waiting rest : List ι} {job : ι}
    (first : (settle capacity weight held waiting).waiting = job :: rest) :
    capacity < weigh weight (settle capacity weight held waiting).held + weight job := by
  induction waiting generalizing held with
  | nil => cases first
  | cons head waiting ih =>
      unfold settle at first ⊢
      split at first
      · rename_i fits
        rw [if_pos fits]
        exact ih first
      · rename_i full
        rw [if_neg full]
        obtain ⟨rfl, -⟩ := List.cons.inj first
        show capacity < weigh weight held + weight head
        omega

theorem settle_le {held waiting : List ι} (within : weigh weight held ≤ capacity) :
    weigh weight (settle capacity weight held waiting).held ≤ capacity := by
  obtain ⟨events, run⟩ := settle_grants capacity weight held waiting
  exact weight_held_le run within

theorem weigh_filter_le (jobs : List ι) (keep : ι → Bool) :
    weigh weight (jobs.filter keep) ≤ weigh weight jobs := by
  induction jobs with
  | nil => exact Nat.le_refl _
  | cons job jobs ih =>
      by_cases kept : keep job = true
      · rw [List.filter_cons_of_pos kept, weigh_cons, weigh_cons]
        omega
      · rw [List.filter_cons_of_neg kept, weigh_cons]
        omega

end Settling

/-! ## Several gates -/

/-- The gates of a system: what they hold, what the jobs ask for, and their order. -/
structure Rules (γ ι : Type) where
  capacity : γ → Nat
  weight : γ → ι → Nat
  rank : γ → Nat
  top : Nat
  ranked : ∀ gate, rank gate ≤ top

/-- The pool of every gate. -/
abbrev Pools (γ ι : Type) := γ → Pool ι

namespace Pools

variable (gates : Pools γ ι)

/-- The job holds permits of the gate. -/
def Holds (job : ι) (gate : γ) : Prop := job ∈ (gates gate).held

/-- The job waits at the gate. -/
def Waits (job : ι) (gate : γ) : Prop := job ∈ (gates gate).waiting

/-- Before any job. -/
def empty : Pools γ ι := fun _ => ⟨[], []⟩

/-- `job` waits behind `other`: at a gate that `other` holds permits of, or waits at before it. -/
def WaitsFor (job other : ι) : Prop :=
  ∃ gate, gates.Waits job gate ∧ (gates.Holds other gate ∨
    ∃ before after, (gates gate).waiting = before ++ job :: after ∧ other ∈ before)

end Pools

/-! ## The invariant -/

/-- What holds at the gates at any time. -/
structure Orderly (rules : Rules γ ι) (gates : Pools γ ι) : Prop where
  once : ∀ gate, ((gates gate).held ++ (gates gate).waiting).Nodup
  within : ∀ gate, weigh (rules.weight gate) (gates gate).held ≤ rules.capacity gate
  full : ∀ gate job rest, (gates gate).waiting = job :: rest →
    rules.capacity gate < weigh (rules.weight gate) (gates gate).held + rules.weight gate job
  fits : ∀ gate job, gates.Waits job gate → rules.weight gate job ≤ rules.capacity gate
  single : ∀ job gate other, gates.Waits job gate → gates.Waits job other → gate = other
  rising : ∀ job gate other, gates.Waits job gate → gates.Holds job other →
    rules.rank other < rules.rank gate

theorem orderly_empty (rules : Rules γ ι) : Orderly rules (Pools.empty : Pools γ ι) where
  once := fun _ => List.nodup_nil
  within := fun _ => Nat.zero_le _
  full := fun _ _ _ first => by cases first
  fits := fun _ _ waits => by cases waits
  single := fun _ _ _ waits => by cases waits
  rising := fun _ _ _ waits => by cases waits

/-! ## Steps -/

/-- What happens at the gates. -/
inductive Event (γ ι : Type)
  | asked (job : ι) (gate : γ)
  | left (job : ι) (gate : γ)

section Steps

variable [DecidableEq γ] [DecidableEq ι]

/-- The pool after a job queued. -/
def queue (capacity : Nat) (weight : ι → Nat) (job : ι) (pool : Pool ι) : Pool ι :=
  settle capacity weight pool.held (pool.waiting ++ [job])

/-- The pool after a job gave its permits back, or left the queue. -/
def leave (capacity : Nat) (weight : ι → Nat) (job : ι) (pool : Pool ι) : Pool ι :=
  settle capacity weight (pool.held.filter (· != job)) (pool.waiting.filter (· != job))

/-- One step at the gates. -/
inductive Step (rules : Rules γ ι) : Pools γ ι → Event γ ι → Pools γ ι → Prop
  | asked {gates : Pools γ ι} {job : ι} {gate : γ} (idle : ∀ other, ¬ gates.Waits job other)
      (rising : ∀ other, gates.Holds job other → rules.rank other < rules.rank gate)
      (fits : rules.weight gate job ≤ rules.capacity gate) :
      Step rules gates (.asked job gate) (Function.update gates gate
        (queue (rules.capacity gate) (rules.weight gate) job (gates gate)))
  | left {gates : Pools γ ι} {job : ι} {gate : γ} :
      Step rules gates (.left job gate) (Function.update gates gate
        (leave (rules.capacity gate) (rules.weight gate) job (gates gate)))

/-! ## Steps keep the order -/

variable {rules : Rules γ ι} {gates after : Pools γ ι} {event : Event γ ι}

omit [DecidableEq ι] in
/-- A gate whose pool settled keeps the order, where nobody but those who were there, and jobs
that may wait there, wait at it. -/
theorem Orderly.settled (orderly : Orderly rules gates) {gate : γ} {held waiting : List ι}
    (once : (held ++ waiting).Nodup)
    (within : weigh (rules.weight gate) held ≤ rules.capacity gate)
    (kept : ∀ job ∈ held, gates.Holds job gate)
    (may : ∀ job ∈ waiting, rules.weight gate job ≤ rules.capacity gate ∧
      (∀ other, gates.Waits job other → gate = other) ∧
      ∀ other, gates.Holds job other → rules.rank other < rules.rank gate) :
    Orderly rules (Function.update gates gate
      (settle (rules.capacity gate) (rules.weight gate) held waiting)) := by
  have perm := settle_perm (rules.capacity gate) (rules.weight gate) held waiting
  have suffix := settle_waiting_suffix (rules.capacity gate) (rules.weight gate) held waiting
  -- who holds permits now held them before, or waited for them
  have holds : ∀ job ∈ (settle (rules.capacity gate) (rules.weight gate) held waiting).held,
      gates.Holds job gate ∨ job ∈ waiting := by
    intro job member
    obtain old | queued := List.mem_append.1 (perm.mem_iff.1 (List.mem_append_left _ member))
    · exact .inl (kept job old)
    · exact .inr queued
  have waits : ∀ job ∈ (settle (rules.capacity gate) (rules.weight gate) held waiting).waiting,
      job ∈ waiting := fun job member => suffix.subset member
  refine ⟨fun other => ?_, fun other => ?_, fun other job rest => ?_, fun other job => ?_,
    fun job first second => ?_, fun job first second => ?_⟩
  · by_cases here : other = gate
    · subst here
      rw [Function.update_self]
      exact perm.nodup_iff.2 once
    · rw [Function.update_of_ne here]
      exact orderly.once other
  · by_cases here : other = gate
    · subst here
      rw [Function.update_self]
      exact settle_le within
    · rw [Function.update_of_ne here]
      exact orderly.within other
  · by_cases here : other = gate
    · subst here
      rw [Function.update_self]
      exact settle_head
    · rw [Function.update_of_ne here]
      exact orderly.full other job rest
  · unfold Pools.Waits
    by_cases here : other = gate
    · subst here
      rw [Function.update_self]
      exact fun member => (may job (waits job member)).1
    · rw [Function.update_of_ne here]
      exact orderly.fits other job
  · unfold Pools.Waits
    by_cases here : first = gate <;> by_cases there : second = gate
    · exact fun _ _ => here.trans there.symm
    · subst here
      rw [Function.update_self, Function.update_of_ne there]
      exact fun member waiting => (may job (waits job member)).2.1 second waiting
    · subst there
      rw [Function.update_self, Function.update_of_ne here]
      exact fun waiting member => ((may job (waits job member)).2.1 first waiting).symm
    · rw [Function.update_of_ne here, Function.update_of_ne there]
      exact orderly.single job first second
  · unfold Pools.Waits Pools.Holds
    by_cases here : first = gate <;> by_cases there : second = gate
    · subst here there
      rw [Function.update_self]
      intro queued granted
      have apart := List.nodup_append.1 (perm.nodup_iff.2 once)
      exact absurd rfl (apart.2.2 job granted job queued)
    · subst here
      rw [Function.update_self, Function.update_of_ne there]
      exact fun member held => (may job (waits job member)).2.2 second held
    · subst there
      rw [Function.update_self, Function.update_of_ne here]
      intro waiting member
      obtain old | queued := holds job member
      · exact orderly.rising job first second waiting old
      · exact absurd ((may job queued).2.1 first waiting).symm here
    · rw [Function.update_of_ne here, Function.update_of_ne there]
      exact orderly.rising job first second

/-- **Every step keeps the order.** -/
theorem Orderly.step (orderly : Orderly rules gates) (step : Step rules gates event after) :
    Orderly rules after := by
  have may : ∀ gate job, gates.Waits job gate → rules.weight gate job ≤ rules.capacity gate ∧
      (∀ other, gates.Waits job other → gate = other) ∧
      ∀ other, gates.Holds job other → rules.rank other < rules.rank gate :=
    fun gate job waits => ⟨orderly.fits gate job waits, fun other => orderly.single job gate other waits,
      fun other => orderly.rising job gate other waits⟩
  cases step with
  | @asked job gate idle rising fits =>
      refine orderly.settled ?_ (orderly.within gate) (fun _ held => held) ?_
      · rw [← List.append_assoc]
        refine List.nodup_append.2 ⟨orderly.once gate, List.nodup_singleton _, ?_⟩
        rintro other member last new rfl
        rw [List.mem_singleton.1 new] at member
        obtain held | waiting := List.mem_append.1 member
        · exact absurd (rising gate held) (Nat.lt_irrefl _)
        · exact idle gate waiting
      · intro other member
        obtain waiting | new := List.mem_append.1 member
        · exact may gate other waiting
        · rw [List.mem_singleton.1 new]
          exact ⟨fits, fun gate' waits => absurd waits (idle gate'), rising⟩
  | @left job gate =>
      refine orderly.settled ?_ (Nat.le_trans (weigh_filter_le _ _) (orderly.within gate))
        (fun _ held => List.mem_of_mem_filter held) fun other waiting =>
          may gate other (List.mem_of_mem_filter waiting)
      rw [← List.filter_append]
      exact (orderly.once gate).filter _

/-- **The order holds at any time.** -/
theorem run_orderly {events : List (Event γ ι)}
    (run : Trace (Step rules) Pools.empty events gates) : Orderly rules gates :=
  run.keeps (P := Orderly rules) (fun _ _ _ step orderly => orderly.step step) (orderly_empty rules)

/-! ## Nobody waits in vain -/

omit [DecidableEq γ] [DecidableEq ι] in
/-- **Where a job waits, some job holds permits and waits for nothing.** -/
theorem Orderly.free_holder (orderly : Orderly rules gates) {job : ι} {gate : γ}
    (waits : gates.Waits job gate) :
    ∃ holder other, gates.Holds holder other ∧ ∀ third, ¬ gates.Waits holder third := by
  -- climb to a gate of higher rank for as long as the holder itself waits
  induction climb : rules.top - rules.rank gate using Nat.strongRecOn generalizing job gate with
  | _ _ ih =>
    unfold Pools.Waits at waits
    cases first : (gates gate).waiting with
    | nil =>
        rw [first] at waits
        cases waits
    | cons head rest =>
        have full := orderly.full gate head rest first
        have fits := orderly.fits gate head (by unfold Pools.Waits; rw [first]; exact List.mem_cons_self)
        cases held : (gates gate).held with
        | nil =>
            rw [held, weigh_nil] at full
            omega
        | cons holder others =>
            have holds : gates.Holds holder gate := by
              unfold Pools.Holds
              rw [held]
              exact List.mem_cons_self
            by_cases idle : ∀ third, ¬ gates.Waits holder third
            · exact ⟨holder, gate, holds, idle⟩
            · obtain ⟨third, waiting⟩ := not_forall_not.1 idle
              have higher := orderly.rising holder third gate waiting holds
              have bound := rules.ranked third
              exact ih _ (by omega) waiting rfl

omit [DecidableEq γ] [DecidableEq ι] in
/-- **No set of jobs waits for each other.** -/
theorem Orderly.no_mutual_wait (orderly : Orderly rules gates) (jobs : Set ι) {job : ι}
    (member : job ∈ jobs) : ∃ one ∈ jobs, ∀ other ∈ jobs, ¬ gates.WaitsFor one other := by
  by_contra circular
  have each : ∀ one ∈ jobs, ∃ other ∈ jobs, gates.WaitsFor one other := by
    intro one inside
    by_contra none
    refine circular ⟨one, inside, fun other there waits => none ⟨other, there, waits⟩⟩
  -- a job that waits in the set: by the rank of its gate, then by its place in the queue
  have never : ∀ (height place : Nat) (one : ι) (gate : γ) (before after : List ι), one ∈ jobs →
      (gates gate).waiting = before ++ one :: after → rules.top - rules.rank gate = height →
      before.length = place → False := by
    intro height
    induction height using Nat.strongRecOn with
    | _ height higher =>
      intro place
      induction place using Nat.strongRecOn with
      | _ place ahead =>
        intro one gate before after inside queued ranked placed
        have waits : gates.Waits one gate := by
          unfold Pools.Waits
          rw [queued]
          simp
        obtain ⟨other, there, gate', waits', blocked⟩ := each one inside
        obtain rfl := orderly.single one gate gate' waits waits'
        obtain ⟨_, -, gate'', waits'', -⟩ := each other there
        obtain ⟨front, back, queued''⟩ := List.append_of_mem waits''
        obtain holds | ⟨front', back', queued', early⟩ := blocked
        · have climbs := orderly.rising other gate'' gate waits'' holds
          have bound := rules.ranked gate''
          exact higher _ (by omega) _ other gate'' front back there queued'' rfl rfl
        · -- both places of `one` in the queue are the same, so `other` stands before it
          have nodup := (List.nodup_append.1 (orderly.once gate)).2.1
          obtain rfl : before = front' := by
            rw [queued] at queued' nodup
            have split := List.nodup_append.1 nodup
            refine (List.append_cons_inj_of_notMem (fun early => ?_) (fun late => ?_)).1 queued' |>.1
            · exact split.2.2 one early one List.mem_cons_self rfl
            · exact (List.nodup_cons.1 split.2.1).1 late
          obtain ⟨front, back, rfl⟩ := List.append_of_mem early
          refine ahead front.length ?_ other gate front (back ++ one :: after) there ?_ ranked rfl
          · rw [← placed, List.length_append, List.length_cons]
            omega
          · rw [queued, List.append_assoc, List.cons_append]
  obtain ⟨-, -, gate, waits, -⟩ := each job member
  obtain ⟨before, after, queued⟩ := List.append_of_mem waits
  exact never _ _ job gate before after member queued rfl rfl

/-- Who is at a gate after a step was there before, or asked. -/
theorem Step.at_gate (step : Step rules gates event after) {job : ι} {gate : γ}
    (there : after.Holds job gate ∨ after.Waits job gate) :
    (gates.Holds job gate ∨ gates.Waits job gate) ∨ event = .asked job gate := by
  have settled : ∀ held waiting : List ι,
      let pool := settle (rules.capacity gate) (rules.weight gate) held waiting
      job ∈ pool.held ∨ job ∈ pool.waiting → job ∈ held ∨ job ∈ waiting := by
    intro held waiting pool member
    exact List.mem_append.1 ((settle_perm _ _ held waiting).mem_iff.1 (List.mem_append.2 member))
  unfold Pools.Holds Pools.Waits at there ⊢
  cases step with
  | @asked new other idle rising fits =>
      by_cases here : gate = other
      · subst here
        rw [Function.update_self] at there
        obtain held | waiting := settled _ _ there
        · exact .inl (.inl held)
        · obtain old | same := List.mem_append.1 waiting
          · exact .inl (.inr old)
          · rw [List.mem_singleton.1 same]
            exact .inr rfl
      · rw [Function.update_of_ne here] at there
        exact .inl there
  | @left gone other =>
      by_cases here : gate = other
      · subst here
        rw [Function.update_self] at there
        exact .inl ((settled _ _ there).imp List.mem_of_mem_filter List.mem_of_mem_filter)
      · rw [Function.update_of_ne here] at there
        exact .inl there

/-- Who waits at a gate after a step waited there before, or asked. -/
theorem Step.waits_gate (step : Step rules gates event after) {job : ι} {gate : γ}
    (waits : after.Waits job gate) : gates.Waits job gate ∨ event = .asked job gate := by
  unfold Pools.Waits at waits ⊢
  cases step with
  | @asked new other idle rising fits =>
      by_cases here : gate = other
      · subst here
        rw [Function.update_self] at waits
        obtain old | same := List.mem_append.1 ((settle_waiting_suffix _ _ _ _).subset waits)
        · exact .inl old
        · rw [List.mem_singleton.1 same]
          exact .inr rfl
      · rw [Function.update_of_ne here] at waits
        exact .inl waits
  | @left gone other =>
      by_cases here : gate = other
      · subst here
        rw [Function.update_self] at waits
        exact .inl (List.mem_of_mem_filter ((settle_waiting_suffix _ _ _ _).subset waits))
      · rw [Function.update_of_ne here] at waits
        exact .inl waits

/-- The first waiter of a gate comes to hold permits there, or stays first, and then nobody is
granted anything there. -/
theorem Step.keeps_first (step : Step rules gates event after) {gate : γ} {one : ι} {rest : List ι}
    (first : (gates gate).waiting = one :: rest) (stays : event ≠ .left one gate) :
    after.Holds one gate ∨ (∃ rest', (after gate).waiting = one :: rest') ∧
      ∀ job, after.Holds job gate → gates.Holds job gate ∧ event ≠ .left job gate := by
  have settled : ∀ held waiting : List ι, (∃ rest', waiting = one :: rest') →
      let pool := settle (rules.capacity gate) (rules.weight gate) held waiting
      one ∈ pool.held ∨ (∃ rest', pool.waiting = one :: rest') ∧ pool.held = held := by
    rintro held _ ⟨rest', rfl⟩
    unfold settle
    split
    · exact .inl (held_subset_settle _ _ _ _ List.mem_cons_self)
    · exact .inr ⟨⟨rest', rfl⟩, rfl⟩
  cases step with
  | @asked job other idle rising fits =>
      unfold Pools.Holds
      by_cases here : gate = other
      · subst here
        rw [Function.update_self]
        obtain granted | ⟨still, same⟩ := settled (gates gate).held ((gates gate).waiting ++ [job])
          ⟨rest ++ [job], by rw [first, List.cons_append]⟩
        · exact .inl granted
        · refine .inr ⟨still, fun holder member => ⟨?_, nofun⟩⟩
          unfold queue at member
          rw [same] at member
          exact member
      · rw [Function.update_of_ne here]
        exact .inr ⟨⟨rest, first⟩, fun holder member => ⟨member, nofun⟩⟩
  | @left job other =>
      unfold Pools.Holds
      by_cases here : gate = other
      · subst here
        rw [Function.update_self]
        have apart : (one != job) = true := by
          rw [bne_iff_ne]
          rintro rfl
          exact stays rfl
        obtain granted | ⟨still, same⟩ := settled ((gates gate).held.filter (· != job))
          ((gates gate).waiting.filter (· != job))
          ⟨rest.filter (· != job), by rw [first, List.filter_cons, if_pos apart]⟩
        · exact .inl granted
        · refine .inr ⟨still, fun holder member => ?_⟩
          unfold leave at member
          rw [same] at member
          obtain ⟨held, kept⟩ := List.mem_filter.1 member
          refine ⟨held, fun same => ?_⟩
          cases same
          simp at kept
      · rw [Function.update_of_ne here]
        refine .inr ⟨⟨rest, first⟩, fun holder member => ⟨member, fun same => ?_⟩⟩
        cases same
        exact here rfl

/-- What is granted stays granted until it is given back. -/
theorem Step.keeps_grant (step : Step rules gates event after) {gate : γ} {one : ι}
    (holds : gates.Holds one gate) (stays : event ≠ .left one gate) : after.Holds one gate := by
  cases step with
  | @asked job other idle rising fits =>
      unfold Pools.Holds
      by_cases here : gate = other
      · subst here
        rw [Function.update_self]
        exact held_subset_settle _ _ _ _ holds
      · rw [Function.update_of_ne here]
        exact holds
  | @left job other =>
      unfold Pools.Holds
      by_cases here : gate = other
      · subst here
        rw [Function.update_self]
        refine held_subset_settle _ _ _ _ (List.mem_filter.2 ⟨holds, ?_⟩)
        rw [bne_iff_ne]
        rintro rfl
        exact stays rfl
      · rw [Function.update_of_ne here]
        exact holds

theorem kept_grant {events : List (Event γ ι)} (run : Trace (Step rules) gates events after)
    {gate : γ} {one : ι} (holds : gates.Holds one gate) (stays : Event.left one gate ∉ events) :
    after.Holds one gate := by
  induction run with
  | nil => exact holds
  | cons step later ih =>
      exact ih (step.keeps_grant holds fun same => stays (same ▸ List.mem_cons_self))
        fun member => stays (List.mem_cons_of_mem _ member)

/-- **Once the jobs that hold permits at a gate have left it, its first waiter holds all it asked
for**, whatever else happened meanwhile. -/
theorem Orderly.granted_after (orderly : Orderly rules gates) {events : List (Event γ ι)}
    (run : Trace (Step rules) gates events after) {gate : γ} {one : ι} {rest : List ι}
    (first : (gates gate).waiting = one :: rest) (stays : Event.left one gate ∉ events)
    (finish : ∀ job, gates.Holds job gate → Event.left job gate ∈ events) :
    after.Holds one gate := by
  induction run generalizing rest with
  | nil gates =>
      -- nobody holds anything, so the first waiter would not fit in an empty pool
      have empty : (gates gate).held = [] :=
        List.eq_nil_iff_forall_not_mem.2 fun job held => absurd (finish job held) List.not_mem_nil
      have full := orderly.full gate one rest first
      have fits := orderly.fits gate one (by
        unfold Pools.Waits
        rw [first]
        exact List.mem_cons_self)
      rw [empty, weigh_nil] at full
      omega
  | @cons gates middle after event events step later ih =>
      have apart : event ≠ .left one gate := fun same => stays (same ▸ List.mem_cons_self)
      have away : Event.left one gate ∉ events := fun member => stays (List.mem_cons_of_mem _ member)
      obtain granted | ⟨⟨rest', still⟩, held⟩ := step.keeps_first first apart
      · exact kept_grant later granted away
      · refine ih (orderly.step step) still away fun job holds => ?_
        obtain ⟨held, other⟩ := held job holds
        obtain same | member := List.mem_cons.1 (finish job held)
        · exact absurd same.symm other
        · exact member

end Steps

end MediaBooster.Theory.Gates
