/-
# Inventory.Coverage -- a cycle of passes reconciles every key that lasts

A pass goes on from the cursor the last one saved, so the passes of a namespace are one scan of
its keys, cut into pieces by page budgets, failures and restarts.  A cycle runs from a cursor that
was reset to the next reset.  Passes take turns here (`OnePass`): one asks for nothing any more
once a later one has begun.

The saved cursor has only passed keys that were reconciled (`Covering.behind`), and a pass that is
at work knows it (`Cursors`).  So

* every well-formed key that is stored throughout a cycle is reconciled in it
  (`reconciled_in_cycle`);
* the cursors saved within a cycle ascend, and every one of them is accepted again
  (`cursors_ascend`).
-/
import MediaBooster.Inventory.Rehearsal
import MediaBooster.Service.Rules
import MediaBooster.Store.Orphans

namespace MediaBooster.Inventory

set_option autoImplicit false

open MediaBooster.Domain MediaBooster.Storage MediaBooster.Store MediaBooster.Service
open MediaBooster.Theory.Run MediaBooster.Theory.Threads MediaBooster.Theory.Transaction

/-! ## Pages -/

section Pages

variable {provider : Provider} {bucket : String} {keys : List String} {truncated : Bool}
variable {storageNamespace : StorageNamespace} {cursor : Option String} {page : ListedObjectsPage}

/-- Every entry of a page is decoded under its key. -/
theorem listedObject_keys {entries : List String} {objects : List ListedObject}
    (decoded : (entries.map fun key => (⟨some key, (provider.objects bucket key).map Int.ofNat⟩ :
      ListedEntry)).mapM listedObject = .ok objects) :
    objects.map ListedObject.key = entries := by
  induction entries generalizing objects with
  | nil =>
      cases decoded
      rfl
  | cons key entries ih =>
      rw [List.map_cons, List.mapM_cons] at decoded
      obtain ⟨object, first, decoded⟩ := except_bind_eq_ok.1 decoded
      obtain ⟨objects', rest, done⟩ := except_bind_eq_ok.1 decoded
      cases done
      have named : object.key = key := by
        unfold listedObject at first
        dsimp only at first
        split at first
        · cases first
        · cases first
          rfl
      rw [List.map_cons, named, ih rest]

/-- The page decoded lists the keys of the page on the wire. -/
theorem listedPage_keys (decoded : listedPage (provider.page bucket keys truncated) = .ok page) :
    page.objects.map ListedObject.key = keys ∧
      page.nextStartAfter = if truncated then keys.getLast? else none := by
  unfold listedPage Provider.page at decoded
  dsimp only at decoded
  split at decoded
  · cases decoded
  · rename_i objects mapped
    have named := listedObject_keys mapped
    cases truncated with
    | false =>
        cases decoded
        exact ⟨named, rfl⟩
    | true =>
        simp only [Option.getD_some, if_true] at decoded ⊢
        split at decoded
        · cases decoded
        · rename_i last isLast
          cases decoded
          refine ⟨named, ?_⟩
          rw [← named, List.getLast?_map, isLast]
          rfl

/-- A page leaves out no key that comes after its cursor and is not past the next one. -/
def Covers (key : String) (cursor : Option String) (page : ListedObjectsPage) : Prop :=
  (∀ value, cursor = some value → value < key) →
    (∀ next, page.nextStartAfter = some next → ¬ next < key) →
      key ∈ page.objects.map ListedObject.key

/-- **A page that was listed leaves nothing out.** -/
theorem covers_of_lists {keyPrefix : String} {maxKeys : Nat} {key : String}
    (lists : provider.Lists bucket keyPrefix cursor maxKeys keys truncated)
    (decoded : listedPage (provider.page bucket keys truncated) = .ok page)
    (stored : (provider.objects bucket key).isSome) (prefixed : startsWith key keyPrefix = true) :
    Covers key cursor page := by
  intro after upTo
  obtain ⟨named, next⟩ := listedPage_keys decoded
  rw [named]
  obtain listed | ⟨rfl, last, isLast, early⟩ :=
    lists.complete key stored ⟨List.isPrefixOf_iff_prefix.1 prefixed, after⟩
  · exact listed
  · rw [if_pos rfl, isLast] at next
    exact absurd early (upTo last next)

/-- A well-formed key of a page is reconciled with the page. -/
theorem mem_validObjects {key : ObjectKey}
    (listed : key.asStr ∈ page.objects.map ListedObject.key)
    (prefixed : startsWith key.asStr storageNamespace.keyPrefix = true) :
    key ∈ (validObjects storageNamespace page).map InventoryObject.key := by
  obtain ⟨object, member, named⟩ := List.mem_map.1 listed
  refine List.mem_map.2 ⟨⟨key, object.contentLength⟩, List.mem_filterMap.2 ⟨object, member, ?_⟩, rfl⟩
  have made : ObjectKey.new object.key = .ok key := by
    rw [named]
    unfold ObjectKey.new
    split
    · rfl
    · rename_i error checked
      rw [key.valid] at checked
      cases checked
  unfold inventoryObject
  rw [made]
  dsimp only
  rw [named, if_pos prefixed]

/-- The cursor behind a page is past the one before it, and is a cursor itself. -/
theorem validatePage_next {next : String} (valid : validatePage storageNamespace cursor page = .ok ())
    (goesOn : page.nextStartAfter = some next) :
    (∀ value, cursor = some value → value < next) ∧
      validateCursor storageNamespace (some next) = .ok () := by
  unfold validatePage at valid
  split at valid
  · cases valid
  · rename_i passed
    simp only [not_or] at passed
    obtain ⟨-, -, listable, last⟩ := passed
    simp only [goesOn, Option.any_some, decide_eq_true_eq, not_not] at last
    obtain ⟨object, isLast, rfl⟩ := Option.map_eq_some_iff.1 last
    simp only [Bool.not_eq_true, Bool.not_eq_false', List.all_eq_true] at listable
    have member := listable object (List.mem_of_getLast? isLast)
    simp only [isListable, Bool.and_eq_true, decide_eq_true_eq, Option.all_eq_true_iff_get] at member
    obtain ⟨⟨short, prefixed⟩, past⟩ := member
    refine ⟨?_, ?_⟩
    · rintro value rfl
      simpa using past
    · unfold validateCursor
      simp [prefixed, Nat.not_lt.2 short]

end Pages

/-! ## Passes take turns -/

section Turns

variable {d : Deployment} {s t : SystemState} {label : SystemLabel} {i : Nat}

/-- The thread is a pass, and no later pass has begun. -/
def AtWork (s : SystemState) (i : Nat) : Prop :=
  (∃ mode, s.call i = some (.inventory mode)) ∧
    ∀ j mode, i < j → s.call j = some (.inventory mode) → s.past j = []

/-- A pass asks only while no later pass has begun. -/
def OnePass (s : SystemState) : SystemLabel → Prop
  | .asked i _ => ∀ mode, s.call i = some (.inventory mode) → AtWork s i
  | _ => True

/-- What is at work after a step was so before it, or has not begun. -/
theorem AtWork.before (step : d.machine.Step s label t) (atWork : AtWork t i) :
    AtWork s i ∨ t.past i = [] := by
  obtain ⟨⟨mode, called⟩, idle⟩ := atWork
  obtain old | ⟨rfl, quiet⟩ := step.call_cases called
  · refine .inl ⟨⟨mode, old⟩, fun j mode' later calledj => ?_⟩
    have silent := idle j mode' later (step.call calledj)
    rw [step.past] at silent
    exact (List.append_eq_nil_iff.1 silent).1
  · right
    rw [step.past, quiet]
    rfl

/-- Only the pass at work hears anything. -/
theorem AtWork.alone {j : Nat} {exchange : Exchange Answer}
    (step : d.machine.Step s (.asked j exchange) t) (turns : OnePass s (.asked j exchange))
    {mode : InventoryMode} (called : s.call j = some (.inventory mode)) (atWork : AtWork t i)
    (begun : t.past i ≠ []) : j = i := by
  have active : AtWork s i := (atWork.before step).resolve_right begun
  obtain earlier | same | later := Nat.lt_trichotomy j i
  · -- a later pass has begun
    obtain ⟨mode', calledi⟩ := active.1
    have idle := (turns mode called).2 i mode' earlier calledi
    refine absurd ?_ begun
    rw [step.past, idle, Label.heard, if_neg (Nat.ne_of_lt earlier)]
    rfl
  · exact same
  · have silent := atWork.2 j mode later (step.call called)
    rw [step.past, Label.heard, if_pos rfl] at silent
    exact absurd silent (List.concat_ne_nil _ _)

/-- What a pass knows that is at work it knew before a step, unless the step is an exchange of
its own. -/
theorem AtWork.past (step : d.machine.Step s label t) (turns : OnePass s label)
    (atWork : AtWork t i) (begun : t.past i ≠ []) :
    AtWork s i ∧ ((∃ exchange, label = .asked i exchange ∧ t.past i = s.past i ++ [exchange]) ∨
      t.past i = s.past i) := by
  refine ⟨(atWork.before step).resolve_right begun, ?_⟩
  have grows := step.past i
  obtain quiet | ⟨exchange, rfl⟩ := label.heard_eq i
  · right
    rw [grows, quiet, List.append_nil]
  · left
    refine ⟨exchange, rfl, ?_⟩
    rw [grows, Label.heard, if_pos rfl]

end Turns

/-! ## Saved cursors -/

section Saved

variable {d : Deployment} {s t : SystemState} {label : SystemLabel} {i : Nat}
variable {storageNamespace : StorageNamespace}

/-- A cursor of the namespace is saved. -/
inductive Saves (storageNamespace : StorageNamespace) (cursor : Option String) : SystemLabel → Prop
  | saved (i : Nat) (savedAt : OffsetDateTime) : Saves storageNamespace cursor
      (.asked i ⟨.store (.saveInventoryCursor storageNamespace cursor savedAt), .ok ()⟩)

/-- Only passes save cursors. -/
theorem call_of_saves {op : Op} {answer : Answer (.store op)} {storageNamespace : StorageNamespace}
    {cursor : Option String} {savedAt : OffsetDateTime}
    (step : d.machine.Step s (.asked i ⟨.store op, answer⟩) t)
    (saves : op = .saveInventoryCursor storageNamespace cursor savedAt) :
    ∃ mode, s.call i = some (.inventory mode) := by
  subst saves
  obtain ⟨call, called, -, asks⟩ := Deployment.obeys step
  cases call with
  | inventory mode => exact ⟨mode, called⟩
  | _ => exact asks.elim

/-- **A step moves the cursor of a namespace by saving it.** -/
theorem savedCursor_step (step : d.machine.Step s label t)
    (integrity : s.shared.store.Integrity) :
    t.shared.store.savedCursor storageNamespace = s.shared.store.savedCursor storageNamespace ∨
      ∃ cursor, Saves storageNamespace cursor label ∧
        t.shared.store.savedCursor storageNamespace = cursor := by
  obtain same | ⟨op, ok, calls, answers⟩ := Deployment.store_cases step
  · left
    rw [same]
  by_cases saves : ∃ storageNamespace startAfter updatedAt,
      op = .saveInventoryCursor storageNamespace startAfter updatedAt
  · obtain ⟨other, startAfter, updatedAt, rfl⟩ := saves
    cases calls with
    | called request => cases request
    | @asked i _ answer =>
        obtain ⟨call, next, asked⟩ := step.asked_cases
        obtain ⟨store', replies, moved⟩ := asked.answered
        rw [moved]
        cases replies with
        | refused => exact .inl rfl
        | ran ran =>
            change saveInventoryCursor other startAfter updatedAt s.shared.store = _ at ran
            cases answer with
            | error e =>
                left
                have leaves := saveInventoryCursor_atomic other startAfter updatedAt _ _ _ ran
                rw [leaves]
            | ok done =>
                obtain ⟨-, here, others, -⟩ := saveInventoryCursor_ok ran
                by_cases same : storageNamespace = other
                · subst same
                  exact .inr ⟨startAfter, .saved _ _, here⟩
                · exact .inl (others _ same)
  · left
    refine KeepsCursors.savedCursor (answers_cursors answers integrity fun _ _ _ same => ?_) _
    exact saves ⟨_, _, _, same⟩

end Saved

/-! ## Computed -/

section Computed

variable {s : SystemState} {label : SystemLabel} {storageNamespace : StorageNamespace}
variable {cursor : Option String}

/-- The thread is a pass. -/
def isPass (s : SystemState) (i : Nat) : Bool :=
  match s.call i with
  | some (.inventory _) => true
  | _ => false

/-- `OnePass`, computed. -/
def onePass (s : SystemState) : SystemLabel → Bool
  | .asked i _ => !isPass s i || (List.range s.threads.length).all fun j =>
      !decide (i < j) || !isPass s j || (s.past j).isEmpty
  | _ => true

theorem onePass_sound (turns : onePass s label = true) : OnePass s label := by
  cases label with
  | asked i exchange =>
      intro mode called
      refine ⟨⟨mode, called⟩, fun j mode' later calledj => ?_⟩
      simp only [onePass, isPass, called, Bool.not_true, Bool.false_or, List.all_eq_true,
        List.mem_range] at turns
      have inside : j < s.threads.length := by
        obtain ⟨thread, there, -⟩ := Option.map_eq_some_iff.1 calledj
        exact (List.getElem?_eq_some_iff.1 there).1
      simpa [later, calledj] using turns j inside
  | _ => trivial

/-- The cursor of the namespace that is saved. -/
def savedIn (storageNamespace : StorageNamespace) : SystemLabel → Option (Option String)
  | .asked _ ⟨.store (.saveInventoryCursor other cursor _), .ok ()⟩ =>
      if other = storageNamespace then some cursor else none
  | _ => none

theorem savedIn_sound (saved : savedIn storageNamespace label = some cursor) :
    Saves storageNamespace cursor label := by
  unfold savedIn at saved
  split at saved
  · split at saved
    · rename_i same
      cases same
      cases saved
      exact .saved _ _
    · cases saved
  · cases saved

theorem savedIn_complete (saves : Saves storageNamespace cursor label) :
    savedIn storageNamespace label = some cursor := by
  cases saves
  simp [savedIn]

end Computed

/-! ## The cursor of the pass at work -/

section Cursors

variable {d : Deployment} {s t : SystemState} {label : SystemLabel} {i : Nat}
variable {storageNamespace : StorageNamespace} {cursor : Option String}

/-- The pass at work goes on from the cursor that is saved. -/
def Cursors (s : SystemState) : Prop :=
  s.shared.store.Integrity ∧ ∀ i, AtWork s i → ∀ storageNamespace cursor,
    InventoryService.CursorAt (s.past i) storageNamespace cursor →
      s.shared.store.savedCursor storageNamespace = cursor

theorem not_cursorAt_nil : ¬ InventoryService.CursorAt [] storageNamespace cursor := by
  rintro (⟨⟨before, after, split, -⟩, -⟩ | ⟨savedAt, before, after, split, -⟩) <;>
    exact absurd split.symm (List.append_ne_nil_of_right_ne_nil _ (List.cons_ne_nil _ _))

/-- The cursor after one more exchange was the cursor before it, was read, or was saved. -/
theorem cursorAt_snoc {past : History} {exchange : Exchange Answer}
    (at_ : InventoryService.CursorAt (past ++ [exchange]) storageNamespace cursor) :
    (SavesNone exchange.1 ∧ InventoryService.CursorAt past storageNamespace cursor) ∨
      exchange = ⟨.store (.inventoryCursor storageNamespace), .ok cursor⟩ ∨
      ∃ savedAt,
        exchange = ⟨.store (.saveInventoryCursor storageNamespace cursor savedAt), .ok ()⟩ := by
  obtain ⟨read, valid⟩ | ⟨savedAt, saved⟩ := at_
  · obtain last | ⟨quiet, before⟩ := since_snoc read
    · exact .inr (.inl last.symm)
    · exact .inl ⟨quiet, .inl ⟨before, valid⟩⟩
  · obtain last | ⟨quiet, before⟩ := since_snoc saved
    · exact .inr (.inr ⟨savedAt, last.symm⟩)
    · exact .inl ⟨quiet, .inr ⟨savedAt, before⟩⟩

/-- A step that saves no cursor leaves them. -/
theorem savedCursor_quiet (step : d.machine.Step s label t)
    (integrity : s.shared.store.Integrity)
    (quiet : ∀ i exchange, label = .asked i exchange → SavesNone exchange.1) :
    t.shared.store.savedCursor storageNamespace =
      s.shared.store.savedCursor storageNamespace := by
  obtain same | ⟨cursor, saves, -⟩ := savedCursor_step step integrity
  · exact same
  · cases saves
    exact (quiet _ _ rfl).elim

theorem Cursors.step (step : d.machine.Step s label t) (turns : OnePass s label)
    (knows : Cursors s) : Cursors t := by
  obtain ⟨integrity, knows⟩ := knows
  refine ⟨?_, fun i atWork storageNamespace cursor at_ => ?_⟩
  · obtain same | ⟨op, ok, -, answers⟩ := Deployment.store_cases step
    · rw [same]
      exact integrity
    · exact answers.integrity integrity
  have begun : t.past i ≠ [] := by
    intro idle
    rw [idle] at at_
    exact not_cursorAt_nil at_
  obtain ⟨active, ⟨exchange, rfl, grows⟩ | same⟩ := atWork.past step turns begun
  · rw [grows] at at_
    obtain ⟨quiet, before⟩ | rfl | ⟨savedAt, rfl⟩ := cursorAt_snoc at_
    · rw [savedCursor_quiet step integrity fun _ _ same => by cases same; exact quiet]
      exact knows i active _ _ before
    · -- the cursor was read just now
      obtain ⟨call, next, asked⟩ := step.asked_cases
      obtain ⟨store', replies, moved⟩ := asked.answered
      rw [moved]
      cases replies with
      | ran ran =>
          cases ran
          rfl
    · obtain ⟨call, next, asked⟩ := step.asked_cases
      obtain ⟨store', replies, moved⟩ := asked.answered
      rw [moved]
      cases replies with
      | ran ran => exact (saveInventoryCursor_ok ran).2.1
  · -- the exchange is not the pass's own, so it saves nothing
    rw [same] at at_
    rw [savedCursor_quiet step integrity, knows i active _ _ at_]
    rintro j ⟨request, answer⟩ rfl
    cases request with
    | store op =>
        cases op with
        | saveInventoryCursor other startAfter savedAt =>
            obtain ⟨mode, called⟩ := call_of_saves step rfl
            obtain rfl := AtWork.alone step turns called atWork begun
            rw [step.past, Label.heard, if_pos rfl] at same
            exact absurd same (by simp)
        | _ => trivial
    | _ => trivial

theorem cursors_of_run {labels : List SystemLabel} (run : d.RunsGuarded OnePass labels s) :
    Cursors s := by
  obtain ⟨clock, run⟩ := run
  refine run.keeps (P := Cursors) (fun _ _ _ step => Cursors.step step.1 step.2)
    ⟨migrated_integrity, fun i atWork storageNamespace cursor at_ => ?_⟩
  rw [State.past_initial] at at_
  exact absurd at_ not_cursorAt_nil

end Cursors

/-! ## Cycles -/

section Cycles

variable {d : Deployment} {s t : SystemState} {label : SystemLabel} {seen : List SystemLabel}
variable {storageNamespace : StorageNamespace} {key : ObjectKey}

/-- A page with the object is reconciled. -/
inductive Reconciles (storageNamespace : StorageNamespace) (key : ObjectKey) : SystemLabel → Prop
  | reconciled {i : Nat} {objects : List InventoryObject} {observedAt eligibleBefore : OffsetDateTime}
      {result : InventoryReconcileResult} (member : key ∈ objects.map InventoryObject.key) :
      Reconciles storageNamespace key (.asked i ⟨.store (.reconcileInventoryPage storageNamespace
        objects observedAt eligibleBefore), .ok result⟩)

/-- The key is reconciled at one of the steps. -/
def Done (storageNamespace : StorageNamespace) (key : ObjectKey) (seen : List SystemLabel) : Prop :=
  ∃ label ∈ seen, Reconciles storageNamespace key label

theorem Done.snoc (done : Done storageNamespace key seen) (label : SystemLabel) :
    Done storageNamespace key (seen ++ [label]) := by
  obtain ⟨earlier, member, reconciles⟩ := done
  exact ⟨earlier, List.mem_append_left _ member, reconciles⟩

/-- The key is stored. -/
def Lasts (d : Deployment) (storageNamespace : StorageNamespace) (key : ObjectKey)
    (s : SystemState) : Prop :=
  (s.shared.provider.objects (d.inventory.storeOf storageNamespace).bucket key.asStr).isSome

/-- What holds within a cycle: the saved cursor has passed the key only if it was reconciled, and
the pass at work has listed it where its page covers it, and has reconciled what it says it has. -/
structure Covering (d : Deployment) (storageNamespace : StorageNamespace) (key : ObjectKey)
    (seen : List SystemLabel) (s : SystemState) : Prop where
  cursors : Cursors s
  behind : ∀ cursor, s.shared.store.savedCursor storageNamespace = some cursor →
    ¬ cursor < key.asStr → Done storageNamespace key seen
  listed : ∀ i, AtWork s i → ∀ cursor page,
    d.inventory.Listed (s.past i) storageNamespace cursor page → Covers key.asStr cursor page
  reconciled : ∀ i, AtWork s i → ∀ objects,
    InventoryService.Reconciled (s.past i) storageNamespace objects →
      key ∈ objects.map InventoryObject.key → Done storageNamespace key seen

/-- **The cursor of a page that is done passes nothing unreconciled.** -/
theorem Covering.saves (covering : Covering d storageNamespace key seen s)
    (prefixed : startsWith key.asStr storageNamespace.keyPrefix = true) (turns : OnePass s label)
    (step : d.machine.Step s label t) {next : Option String}
    (saves : Saves storageNamespace next label)
    (upTo : ∀ value, next = some value → ¬ value < key.asStr) :
    Done storageNamespace key seen := by
  obtain ⟨i, savedAt⟩ := saves
  obtain ⟨mode, called⟩ := call_of_saves step rfl
  have atWork := turns mode called
  obtain ⟨call, called', rule, -⟩ := Deployment.obeys step
  rw [called] at called'
  cases called'
  obtain ⟨cursor, page, at_, listed, reconciled, rfl⟩ := rule
  have saved := covering.cursors.2 i atWork _ _ at_
  by_cases after : ∀ value, cursor = some value → value < key.asStr
  · have there := covering.listed i atWork cursor page listed after upTo
    exact covering.reconciled i atWork _ reconciled (mem_validObjects there prefixed)
  · obtain ⟨value, rest⟩ := not_forall.1 after
    obtain ⟨rfl, passed⟩ := Classical.not_imp.1 rest
    exact covering.behind value saved passed

/-- What the pass at work heard before a step that is not its own save. -/
theorem listed_snoc {past : History} {exchange : Exchange Answer} {cursor : Option String}
    {page : ListedObjectsPage}
    (listed : d.inventory.Listed (past ++ [exchange]) storageNamespace cursor page) :
    d.inventory.Listed past storageNamespace cursor page ∨ ∃ output,
      exchange = ⟨.provider (.listObjectsV2 (d.inventory.storeOf storageNamespace).bucket
        storageNamespace.keyPrefix cursor d.inventory.policy.pageSize), .ok output⟩ ∧
      listedPage output = .ok page := by
  obtain ⟨output, since, decoded, valid⟩ := listed
  obtain last | ⟨-, before⟩ := since_snoc since
  · exact .inr ⟨output, last.symm, decoded⟩
  · exact .inl ⟨output, before, decoded, valid⟩

theorem Covering.step (covering : Covering d storageNamespace key seen s)
    (prefixed : startsWith key.asStr storageNamespace.keyPrefix = true) (turns : OnePass s label)
    (lasts : Lasts d storageNamespace key s) (step : d.machine.Step s label t) :
    Covering d storageNamespace key (seen ++ [label]) t where
  cursors := covering.cursors.step step turns
  behind := by
    intro cursor saved passed
    obtain same | ⟨next, saves, now⟩ := savedCursor_step step covering.cursors.1
    · rw [same] at saved
      exact (covering.behind cursor saved passed).snoc label
    · rw [now] at saved
      subst saved
      refine (covering.saves prefixed turns step saves ?_).snoc label
      rintro value ⟨⟩
      exact passed
  listed := by
    intro i atWork cursor page listed
    have begun : t.past i ≠ [] := by
      intro idle
      obtain ⟨output, since, -⟩ := listed
      rw [idle] at since
      exact absurd since.mem List.not_mem_nil
    obtain ⟨active, ⟨exchange, rfl, grows⟩ | same⟩ := atWork.past step turns begun
    · rw [grows] at listed
      obtain before | ⟨output, rfl, decoded⟩ := listed_snoc listed
      · exact covering.listed i active cursor page before
      · -- the page was listed just now, and the key is stored
        obtain ⟨call, next, asked⟩ := step.asked_cases
        obtain ⟨provider', answered, -⟩ := asked.answered
        cases answered with
        | performed performs =>
            cases performs with
            | listed lists => exact covers_of_lists lists decoded lasts prefixed
    · rw [same] at listed
      exact covering.listed i active cursor page listed
  reconciled := by
    intro i atWork objects reconciled member
    have begun : t.past i ≠ [] := by
      intro idle
      obtain ⟨observedAt, eligibleBefore, result, since⟩ := reconciled
      rw [idle] at since
      exact absurd since.mem List.not_mem_nil
    obtain ⟨active, ⟨exchange, rfl, grows⟩ | same⟩ := atWork.past step turns begun
    · rw [grows] at reconciled
      obtain ⟨observedAt, eligibleBefore, result, since⟩ := reconciled
      obtain rfl | ⟨-, before⟩ := since_snoc since
      · exact ⟨_, List.mem_append_right _ (List.mem_singleton_self _), .reconciled member⟩
      · exact (covering.reconciled i active objects ⟨_, _, _, before⟩ member).snoc _
    · rw [same] at reconciled
      exact (covering.reconciled i active objects reconciled member).snoc label

/-- A cycle begins with a new deployment, or with a cursor that was reset. -/
def CycleBegins (storageNamespace : StorageNamespace) (before : List SystemLabel) : Prop :=
  before = [] ∨ ∃ earlier label, before = earlier ++ [label] ∧ Saves storageNamespace none label

/-- Nothing is known when a cycle begins. -/
theorem Covering.begins {before : List SystemLabel} (begins : CycleBegins storageNamespace before)
    (run : d.RunsGuarded OnePass before s) : Covering d storageNamespace key [] s := by
  have cursors := cursors_of_run run
  obtain ⟨clock, run⟩ := run
  have unheard : s.shared.store.savedCursor storageNamespace = none ∧
      ∀ i, AtWork s i → ∀ exchange, ¬ Since (s.past i) exchange ∨ ¬ SavesNone exchange.1 := by
    obtain rfl | ⟨earlier, label, rfl, saves⟩ := begins
    · cases run
      refine ⟨rfl, fun i _ exchange => .inl fun since => ?_⟩
      rw [State.past_initial] at since
      exact absurd since.mem List.not_mem_nil
    · obtain ⟨middle, first, last⟩ := run.split
      have ⟨step, turns⟩ : Guarded d.machine.Step OnePass middle label s := by
        cases last with
        | cons step rest =>
            cases rest
            exact step
      obtain ⟨j, savedAt⟩ := saves
      have saved : s.shared.store.savedCursor storageNamespace = none := by
        obtain ⟨call, next, asked⟩ := step.asked_cases
        obtain ⟨store', replies, moved⟩ := asked.answered
        rw [moved]
        cases replies with
        | ran ran => exact (saveInventoryCursor_ok ran).2.1
      refine ⟨saved, fun i atWork exchange => ?_⟩
      by_cases begun : s.past i = []
      · left
        rw [begun]
        intro since
        exact absurd since.mem List.not_mem_nil
      · -- the pass at work is the one that has just saved
        obtain ⟨mode, called⟩ := call_of_saves step rfl
        obtain rfl := AtWork.alone step turns called atWork begun
        rw [step.past, Label.heard, if_pos rfl]
        by_cases quiet : SavesNone exchange.1
        · left
          intro since
          obtain rfl | ⟨silent, -⟩ := since_snoc since
          · exact quiet
          · exact silent
        · exact .inr quiet
  refine ⟨cursors, ?_, ?_, ?_⟩
  · intro cursor saved
    rw [unheard.1] at saved
    cases saved
  · rintro i atWork cursor page ⟨output, since, -⟩
    obtain not | not := unheard.2 i atWork _
    · exact absurd since not
    · exact absurd trivial not
  · rintro i atWork objects ⟨observedAt, eligibleBefore, result, since⟩
    obtain not | not := unheard.2 i atWork _
    · exact absurd since not
    · exact absurd trivial not

/-- **Every well-formed key that lasts through a cycle is reconciled in it**, whatever else the
deployment does, however many passes the cycle takes and wherever they are cut off. -/
theorem reconciled_in_cycle {before cycle : List SystemLabel} {u : SystemState}
    (begins : CycleBegins storageNamespace before) (first : d.RunsGuarded OnePass before s)
    (run : Trace (Guarded d.machine.Step fun s label =>
      OnePass s label ∧ Lasts d storageNamespace key s) s cycle t)
    (ends : Saves storageNamespace none label) (turns : OnePass t label)
    (last : d.machine.Step t label u)
    (prefixed : startsWith key.asStr storageNamespace.keyPrefix = true) :
    ∃ label ∈ cycle, Reconciles storageNamespace key label := by
  have covering : Covering d storageNamespace key ([] ++ cycle) t :=
    run.accrues (P := Covering d storageNamespace key)
      (fun _ _ _ _ step covering => covering.step prefixed step.2.1 step.2.2 step.1)
      (Covering.begins begins first)
  rw [List.nil_append] at covering
  exact covering.saves prefixed turns last ends fun _ none => by cases none

/-- The key of an image that is stored. -/
def imageObjectKey (number : Nat) (valid : validateObjectKey (imageKey number) = .ok ()) :
    ObjectKey := ⟨imageKey number, valid⟩

theorem imageKey_three : validateObjectKey (imageKey 3) = .ok () := by decide +kernel

/-- The key is stored, computed. -/
def lasts (s : SystemState) : Bool := (s.shared.provider.objects "raw" (imageKey 3)).isSome

/-- Two images are scanned a key at a time, so a cycle takes two passes, of which the second
reconciles the second image. -/
theorem reconciled_in_cycle_paged : ∃ labels, ∃ s : SystemState, ∃ cycle, ∃ t : SystemState,
    narrowDeployment.RunsGuarded OnePass labels s ∧
      Trace (Guarded narrowDeployment.machine.Step fun s label => OnePass s label ∧
        Lasts narrowDeployment .raw (imageObjectKey 3 imageKey_three) s) s cycle t ∧
      ∃ label ∈ cycle, Reconciles .raw (imageObjectKey 3 imageKey_three) label := by
  have played : (((((paging narrowDeployment 1).performAll onePass
      (storeImages [2, 3] ++ passOf 1 ++ .run 1 1 :: passOf 2) ⟨.initial (.fresh (sampleTime 0)), []⟩).bind
      ((paging narrowDeployment 1).exchange
        (fun s label => onePass s label && savedIn .raw label == some none) 2)).bind
      ((paging narrowDeployment 1).performAll (fun s label => onePass s label && lasts s)
        (passOf 3 ++ .run 3 1 :: .crash 3 :: passOf 4))).bind
      ((paging narrowDeployment 1).exchange
        (fun s label => onePass s label && savedIn .raw label == some none) 4)).isSome = true := by
    decide +kernel
  obtain ⟨labels, s, label, t, cycle, u, label', v, first, reset, run, last⟩ := paging_stages played
  obtain ⟨step, both⟩ := reset
  obtain ⟨step', both'⟩ := last
  rw [Bool.and_eq_true, beq_iff_eq] at both both'
  have before : narrowDeployment.RunsGuarded OnePass (labels ++ [label]) t :=
    ⟨_, (first.mono fun _ _ _ step => ⟨step.1, onePass_sound step.2⟩).append
      (.single ⟨step, onePass_sound both.1⟩)⟩
  have within : Trace (Guarded narrowDeployment.machine.Step fun s label => OnePass s label ∧
      Lasts narrowDeployment .raw (imageObjectKey 3 imageKey_three) s) t cycle u := by
    refine run.mono fun _ _ _ step => ⟨step.1, ?_⟩
    obtain ⟨turns, stored⟩ := Bool.and_eq_true_iff.1 step.2
    exact ⟨onePass_sound turns, stored⟩
  exact ⟨_, t, cycle, u, before, within, reconciled_in_cycle
    (.inr ⟨labels, label, rfl, savedIn_sound both.2⟩) before within (savedIn_sound both'.2)
    (onePass_sound both'.1) step' (by decide +kernel)⟩

end Cycles

/-! ## Cursors within a cycle -/

section Ascent

variable {d : Deployment} {s t : SystemState} {label : SystemLabel}
variable {storageNamespace : StorageNamespace}

/-- A cursor is saved past the one that is saved already. -/
theorem Cursors.saves (cursors : Cursors s) (turns : OnePass s label)
    (step : d.machine.Step s label t) {next : String}
    (saves : Saves storageNamespace (some next) label) :
    (∀ value, s.shared.store.savedCursor storageNamespace = some value → value < next) ∧
      validateCursor storageNamespace (some next) = .ok () ∧
      t.shared.store.savedCursor storageNamespace = some next := by
  have moved : t.shared.store.savedCursor storageNamespace = some next := by
    obtain ⟨i, savedAt⟩ := saves
    obtain ⟨call, _, asked⟩ := step.asked_cases
    obtain ⟨store', replies, moved⟩ := asked.answered
    rw [moved]
    cases replies with
    | ran ran => exact (saveInventoryCursor_ok ran).2.1
  obtain ⟨i, savedAt⟩ := saves
  obtain ⟨mode, called⟩ := call_of_saves step rfl
  obtain ⟨call, called', rule, -⟩ := Deployment.obeys step
  rw [called] at called'
  cases called'
  obtain ⟨cursor, page, at_, ⟨output, -, -, valid⟩, -, goesOn⟩ := rule
  rw [cursors.2 i (turns mode called) _ _ at_]
  exact ⟨(validatePage_next valid goesOn.symm).1, (validatePage_next valid goesOn.symm).2, moved⟩

/-- While no cursor is reset, the saved one only moves on. -/
theorem Cursors.ascends {labels : List SystemLabel} {first : String}
    (run : Trace (Guarded d.machine.Step OnePass) s labels t)
    (within : ∀ label ∈ labels, ¬ Saves storageNamespace none label) (cursors : Cursors s)
    (saved : ∃ value, s.shared.store.savedCursor storageNamespace = some value ∧ first ≤ value) :
    Cursors t ∧
      ∃ value, t.shared.store.savedCursor storageNamespace = some value ∧ first ≤ value := by
  induction run with
  | nil => exact ⟨cursors, saved⟩
  | @cons s middle t label labels step _ ih =>
      refine ih (fun later member => within later (List.mem_cons_of_mem _ member))
        (cursors.step step.1 step.2) ?_
      obtain ⟨value, there, upTo⟩ := saved
      obtain same | ⟨cursor, saves, now⟩ := savedCursor_step step.1 cursors.1
      · exact ⟨value, same.trans there, upTo⟩
      · cases cursor with
        | none => exact absurd saves (within label List.mem_cons_self)
        | some next =>
            have past := (cursors.saves step.2 step.1 saves).1 value there
            exact ⟨next, now, le_of_lt (lt_of_le_of_lt upTo past)⟩

/-- **The cursors that are saved within a cycle ascend**, and each of them is a cursor that the
next pass accepts. -/
theorem cursors_ascend {earlier middle : List SystemLabel} {label' : SystemLabel}
    {first second : String} (run : d.RunsGuarded OnePass (earlier ++ label :: (middle ++ [label'])) t)
    (saves : Saves storageNamespace (some first) label)
    (again : Saves storageNamespace (some second) label')
    (within : ∀ label ∈ middle, ¬ Saves storageNamespace none label) :
    first < second ∧ validateCursor storageNamespace (some first) = .ok () ∧
      validateCursor storageNamespace (some second) = .ok () := by
  obtain ⟨clock, run⟩ := run
  obtain ⟨before, after, start, save, rest⟩ := run.split_cons
  have cursors := cursors_of_run ⟨clock, start⟩
  obtain ⟨-, validFirst, saved⟩ := cursors.saves save.2 save.1 saves
  obtain ⟨before', after', run', save', -⟩ := rest.split_cons
  obtain ⟨cursors', value, there, upTo⟩ :=
    Cursors.ascends run' within (cursors.step save.1 save.2) ⟨first, saved, le_rfl⟩
  obtain ⟨past, validSecond, -⟩ := cursors'.saves save'.2 save'.1 again
  exact ⟨lt_of_le_of_lt upTo (past value there), validFirst, validSecond⟩

/-- The first two passes of a cycle over three images save the keys of the first two. -/
theorem cursors_ascend_paged : ∃ labels, ∃ t : SystemState,
    narrowDeployment.RunsGuarded OnePass labels t ∧ imageKey 2 < imageKey 3 ∧
      validateCursor .raw (some (imageKey 2)) = .ok () ∧
      validateCursor .raw (some (imageKey 3)) = .ok () := by
  have played : (((((paging narrowDeployment 1).performAll onePass (storeImages [2, 3, 4] ++ passOf 1)
      ⟨.initial (.fresh (sampleTime 0)), []⟩).bind ((paging narrowDeployment 1).exchange
        (fun s label => onePass s label && savedIn .raw label == some (some (imageKey 2))) 1)).bind
      ((paging narrowDeployment 1).performAll
        (fun s label => onePass s label && savedIn .raw label != some none) (passOf 2))).bind
      ((paging narrowDeployment 1).exchange
        (fun s label => onePass s label && savedIn .raw label == some (some (imageKey 3))) 2)).isSome
      = true := by
    decide +kernel
  obtain ⟨labels, s, label, t, middle, u, label', v, first, save, run, again⟩ := paging_stages played
  obtain ⟨step, both⟩ := save
  obtain ⟨step', both'⟩ := again
  rw [Bool.and_eq_true, beq_iff_eq] at both both'
  have within : ∀ label ∈ middle, ¬ Saves .raw none label := by
    intro label member saves
    obtain ⟨before, after, -, guard⟩ := run.step_of_mem member
    obtain ⟨-, keeps⟩ := Bool.and_eq_true_iff.1 guard
    rw [savedIn_complete saves] at keeps
    cases keeps
  have whole : narrowDeployment.RunsGuarded OnePass (labels ++ label :: (middle ++ [label'])) v := by
    refine ⟨_, (first.mono fun _ _ _ step => ⟨step.1, onePass_sound step.2⟩).append
      (.cons ⟨step, onePass_sound both.1⟩ (Trace.append ?_
        (.single ⟨step', onePass_sound both'.1⟩)))⟩
    exact run.mono fun _ _ _ step => ⟨step.1, onePass_sound (Bool.and_eq_true_iff.1 step.2).1⟩
  exact ⟨_, v, whole, cursors_ascend whole (savedIn_sound both.2) (savedIn_sound both'.2) within⟩

end Ascent

end MediaBooster.Inventory
