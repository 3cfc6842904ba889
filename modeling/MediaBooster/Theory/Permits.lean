/-
# Theory.Permits -- a pool of permits with a queue

A weighted semaphore: a job asks for as many permits as it weighs, waits its turn, and gives
them all back at once.  Turns are first come, first served, so a large job at the head holds the
smaller ones behind it back.

* `weight_held_le`: the jobs that hold permits never weigh more than the pool.
* `grants`: where every job that waits fits in the pool, each of them is granted once the jobs
  that hold permits, and those before it, have given theirs back.
-/
import Mathlib.Algebra.GroupWithZero.Nat
import MediaBooster.Theory.Run

namespace MediaBooster.Theory.Permits

set_option autoImplicit false

open MediaBooster.Theory.Run

variable {ι : Type}

/-- The jobs that hold permits, and those that wait for them, in their order. -/
structure Pool (ι : Type) where
  held : List ι
  waiting : List ι

/-- What happens to a pool. -/
inductive Event (ι : Type)
  | queued (job : ι)
  | granted
  | released (place : Nat)
  | gaveUp (place : Nat)

/-- What the jobs weigh together. -/
def weigh (weight : ι → Nat) (jobs : List ι) : Nat := (jobs.map weight).sum

/-- One step of a pool of `capacity` permits. -/
inductive Step (capacity : Nat) (weight : ι → Nat) : Pool ι → Event ι → Pool ι → Prop
  | queued {held waiting : List ι} (job : ι) :
      Step capacity weight ⟨held, waiting⟩ (.queued job) ⟨held, waiting ++ [job]⟩
  | granted {held waiting : List ι} {job : ι} (fits : weigh weight held + weight job ≤ capacity) :
      Step capacity weight ⟨held, job :: waiting⟩ .granted ⟨job :: held, waiting⟩
  | released {held waiting : List ι} (place : Nat) :
      Step capacity weight ⟨held, waiting⟩ (.released place) ⟨held.eraseIdx place, waiting⟩
  | gaveUp {held waiting : List ι} (place : Nat) :
      Step capacity weight ⟨held, waiting⟩ (.gaveUp place) ⟨held, waiting.eraseIdx place⟩

section Runs

variable {capacity : Nat} {weight : ι → Nat} {pool after : Pool ι} {events : List (Event ι)}

@[simp] theorem weigh_nil : weigh weight [] = 0 := rfl

@[simp] theorem weigh_cons (job : ι) (jobs : List ι) :
    weigh weight (job :: jobs) = weight job + weigh weight jobs := rfl

theorem weigh_eraseIdx_le (jobs : List ι) (place : Nat) :
    weigh weight (jobs.eraseIdx place) ≤ weigh weight jobs := by
  induction jobs generalizing place with
  | nil => exact Nat.le_refl _
  | cons job jobs ih =>
      cases place with
      | zero => exact Nat.le_add_left _ _
      | succ place => exact Nat.add_le_add_left (ih place) _

/-- The jobs that hold permits never weigh more than the pool. -/
theorem weight_held_le (run : Trace (Step capacity weight) pool events after)
    (start : weigh weight pool.held ≤ capacity) : weigh weight after.held ≤ capacity := by
  refine run.keeps (P := fun pool => weigh weight pool.held ≤ capacity) ?_ start
  intro pool event after step within
  cases step with
  | queued job => exact within
  | granted fits =>
      show weight _ + weigh weight _ ≤ capacity
      omega
  | released place => exact Nat.le_trans (weigh_eraseIdx_le _ place) within
  | gaveUp place => exact within

/-- Jobs that fit together can hold their permits together. -/
theorem fills (jobs : List ι) (fit : weigh weight jobs ≤ capacity) :
    ∃ events, Trace (Step capacity weight) ⟨[], []⟩ events ⟨jobs, []⟩ := by
  induction jobs with
  | nil => exact ⟨[], .nil _⟩
  | cons job jobs ih =>
      rw [weigh_cons] at fit
      obtain ⟨events, run⟩ := ih (by omega)
      have granted : weigh weight jobs + weight job ≤ capacity := by omega
      exact ⟨_, run.append (.cons (.queued job) (.single (.granted granted)))⟩

/-- Everything that is held can be given back. -/
theorem drains (held waiting : List ι) :
    ∃ events, Trace (Step capacity weight) ⟨held, waiting⟩ events ⟨[], waiting⟩ := by
  induction held with
  | nil => exact ⟨[], .nil _⟩
  | cons job held ih =>
      obtain ⟨events, run⟩ := ih
      exact ⟨_, .cons (.released 0) run⟩

/-- Every job that waits is granted once those before it have given their permits back. -/
theorem grants {job : ι} (fit : ∀ job ∈ pool.waiting, weight job ≤ capacity)
    (waits : job ∈ pool.waiting) :
    ∃ events after, Trace (Step capacity weight) pool events after ∧ job ∈ after.held := by
  obtain ⟨held, waiting⟩ := pool
  induction waiting generalizing held with
  | nil => cases waits
  | cons first waiting ih =>
      have drained : ∃ events, Trace (Step capacity weight) ⟨held, first :: waiting⟩ events
          ⟨[], first :: waiting⟩ := drains held (first :: waiting)
      obtain ⟨events, drained⟩ := drained
      have fits : weigh weight [] + weight first ≤ capacity := by
        rw [weigh_nil, Nat.zero_add]
        exact fit first List.mem_cons_self
      have granted : Trace (Step capacity weight) ⟨held, first :: waiting⟩ (events ++ [.granted])
          ⟨[first], waiting⟩ := drained.append (.single (.granted fits))
      obtain rfl | later := List.mem_cons.1 waits
      · exact ⟨_, _, granted, List.mem_cons_self⟩
      · obtain ⟨more, after, run, held⟩ :=
          ih [first] (fun other member => fit other (List.mem_cons_of_mem _ member)) later
        exact ⟨_, after, granted.append run, held⟩

end Runs

end MediaBooster.Theory.Permits
