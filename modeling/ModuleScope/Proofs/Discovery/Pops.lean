import Mathlib.Algebra.GroupWithZero.Nat
import Mathlib.Algebra.Order.BigOperators.Group.Finset
import Mathlib.Data.Set.Finite.Basic
import ModuleScope.Proofs.Discovery.Sequence

/-! How often a run takes a path from its queue: once for the seed and once for each reference of a module found. -/

namespace ModuleScope

/-- How many references modules have altogether. -/
def referenceSum (modules : List FoundModule) : Nat :=
  (modules.map fun module => module.declared.references.length).sum

/-- Modules side by side have the references of both. -/
@[simp] theorem referenceSum_append (front back : List FoundModule) :
    referenceSum (front ++ back) = referenceSum front + referenceSum back := by
  simp [referenceSum]

/-- Without modules there are no references. -/
@[simp] theorem referenceSum_nil : referenceSum [] = 0 := rfl

/-- A single module has its own references. -/
@[simp] theorem referenceSum_singleton (module : FoundModule) :
    referenceSum [module] = module.declared.references.length := by
  simp [referenceSum]

namespace Run

variable {sources : ModuleSources} {signals signals' : Signals} {run run' : Run}

/-- What is awaited are references of the batch, of outcomes in hand, and at paths from which an outcome is due. -/
theorem length_awaited (sources : ModuleSources) (run : Run) :
    (run.awaited sources).length = run.references.length +
      ((run.coordinator.unaccepted ++ run.results).map fun outcome => (outcomeReferences outcome).length).sum +
      ((pathsAt WorkerStage.isDue run.workers).map fun path => (sources.references.listed path).length).sum := by
  -- An outcome that is due brings what is listed at its path.
  have due : ((pathsAt WorkerStage.isDue run.workers).map fun path => (sources.references.listed path).length) =
      ((pathsAt WorkerStage.isDue run.workers).map sources.describe).map fun outcome =>
        (outcomeReferences outcome).length := by
    simp [ModuleSources.listed_references]
  rw [due]
  simp only [awaited, outcomes, List.length_append, List.length_flatMap, List.map_append, List.sum_append]
  omega

/-- What was taken from the queue, and what waits or is awaited, is no more than the seed and the references at the
paths that have been seen. -/
def PopsCovered (sources : ModuleSources) (run : Run) : Prop :=
  run.pops + run.queue.length + (run.awaited sources).length ≤
    1 + (run.seen.map fun path => (sources.references.listed path).length).sum

/-- A step of the coordinator takes from the queue only what is covered. -/
theorem PopsCovered.coordinator (moved : CoordinatorMoved signals run signals' run')
    (covered : run.PopsCovered sources) : run'.PopsCovered sources := by
  rw [PopsCovered, length_awaited] at covered ⊢
  cases moved with
  | dispatched stage _ =>
    -- The references at the paths of the batch may come now, and these paths have been seen.
    rw [pathsAt_started _ _ rfl]
    simp only [stage, CoordinatorStage.unaccepted, List.nil_append, List.map_append, List.sum_append, List.map_reverse,
      List.sum_reverse, List.length_take, List.length_drop, List.length_nil] at covered ⊢
    omega
  | drained stage _ _ | skipped stage _ _ =>
    -- What is taken from the queue had been covered.
    simp only [stage, CoordinatorStage.unaccepted, List.nil_append, List.length_take, List.length_drop,
      List.length_nil] at covered ⊢
    omega
  | batchEnded outcome stage _ _ =>
    -- There are no workers left.
    rw [stage] at covered
    cases outcome <;>
      simp only [CoordinatorStage.unaccepted, afterBatch, List.nil_append, pathsAt_nil, List.map_nil,
        List.sum_nil] at covered ⊢ <;> omega
  | passedOver outcome result rest stage _ results =>
    -- What this result would have brought does not come.
    simp only [stage, results, CoordinatorStage.unaccepted, List.nil_append, List.map_cons, List.sum_cons] at covered ⊢
    omega
  | taken result rest stage results =>
    simp only [stage, results, CoordinatorStage.unaccepted, List.nil_append, List.cons_append] at covered ⊢
    exact covered
  | accepted module stage =>
    -- The references that were to come wait now.
    simp only [stage, CoordinatorStage.unaccepted, List.nil_append, List.cons_append, List.map_cons, List.sum_cons,
      List.length_append, outcomeReferences] at covered ⊢
    omega
  | queued stage _ =>
    -- References that waited stand in the queue.
    simp only [stage, CoordinatorStage.unaccepted, List.nil_append, List.length_append, List.length_nil] at covered ⊢
    omega
  | weighed result stage _ =>
    simp only [stage, CoordinatorStage.unaccepted] at covered ⊢
    exact covered
  | weighedCancelled _ stage _ | refused _ stage =>
    -- The references that were to come are passed over.
    simp only [stage, CoordinatorStage.unaccepted, List.nil_append, List.cons_append, List.map_cons,
      List.sum_cons] at covered ⊢
    omega
  | roundCancelled stage _ | roundStarted stage _ | roundStopped stage _ | roundOpen stage _ | abandoned _ stage _
  | sent _ stage _ _ | closedCancelled stage _ | closed stage _ | closedStopped stage _ | unheard _ stage _
  | announced _ stage _ _ =>
    simp only [stage, CoordinatorStage.unaccepted] at covered ⊢
    exact covered

/-- What a worker reads was to come from it. -/
theorem PopsCovered.worker (moved : WorkerMoved sources signals run run') (covered : run.PopsCovered sources) :
    run'.PopsCovered sources := by
  rw [PopsCovered, length_awaited] at covered ⊢
  cases moved with
  | ended front back path workers =>
    -- What was due from the worker is now in its outcome.
    simp only [workers, pathsAt_append, pathsAt_cons, WorkerStage.isDue, if_true, Bool.false_eq_true, if_false,
      List.map_append, List.map_cons, List.map_nil, List.sum_append, List.sum_cons, List.sum_nil,
      ModuleSources.listed_references] at covered ⊢
    omega
  | turnedAway front back path workers _ | calledOff front back path workers _ =>
    -- Nothing comes from a worker that leaves early.
    simp only [workers, pathsAt_append, pathsAt_cons, WorkerStage.isDue, if_true, Bool.false_eq_true, if_false,
      List.map_append, List.map_cons, List.sum_append, List.sum_cons] at covered ⊢
    omega
  | asked front back path workers _ | admitted front back path _ workers _ | timedOut front back path workers _
  | started front back path workers _ | left front back path workers =>
    simpa [workers, WorkerStage.isDue] using covered

end Run

namespace History

variable {sources : ModuleSources} {history before after : History} {move : Move} {signals : Signals} {run : Run}

/-- Every move leaves what is taken from the queue covered. -/
theorem Moved.popsCovered (moved : before.Moved sources move after) (orderly : before.run.Orderly)
    (covered : before.run.PopsCovered sources) : after.run.PopsCovered sources := by
  cases moved with
  | coordinator moved => exact covered.coordinator moved
  | worker _ moved => exact covered.worker moved
  | consumer moved => cases moved <;> exact covered
  | called _ =>
    unfold Run.call
    split
    · -- The seed is covered by itself.
      rename_i idle
      rw [orderly.untouched idle]
      simp [Run.PopsCovered, Run.length_awaited]
    all_goals exact covered
  | cancelled _ _ => exact covered

/-- No more is taken from the queue than the seed and the references found at the paths that the seed leads to. -/
theorem Sound.pops_le (sound : history.Sound sources) (covered : history.run.PopsCovered sources)
    (finite : {path | sources.references.Reaches history.run.seed path}.Finite) :
    history.run.pops ≤ 1 + ∑ path ∈ finite.toFinset, (sources.references.listed path).length := by
  -- Each path that has been seen is one of those, and no other one.
  have among : history.run.seen.toFinset ⊆ finite.toFinset := by
    intro path seen
    rw [Set.Finite.mem_toFinset]
    exact sound.accounts.reached path (Or.inr (Or.inr (List.mem_toFinset.mp seen)))
  calc
    history.run.pops ≤ 1 + (history.run.seen.map fun path => (sources.references.listed path).length).sum := by
      unfold Run.PopsCovered at covered
      omega
    _ = 1 + ∑ path ∈ history.run.seen.toFinset, (sources.references.listed path).length := by
      rw [List.sum_toFinset (fun path => (sources.references.listed path).length) sound.ledger.nodup_seen]
    _ ≤ 1 + ∑ path ∈ finite.toFinset, (sources.references.listed path).length :=
      Nat.add_le_add_left (Finset.sum_le_sum_of_subset among) 1

/-- The paths taken from the queue are told by the modules that were found. -/
structure Tally (history : History) : Prop where
  /-- The seed and each reference were queued once, and have been taken from the queue or wait. -/
  balance : history.run.listening = true → history.run.state ≠ .idle → history.run.coordinator.isIntact = true →
    history.run.pops + history.run.queue.length + history.run.references.length = 1 + referenceSum history.taken
  /-- Nothing waits any more when the end is announced. -/
  announced : history.run.listening = true → history.run.coordinator = .announcing (.finished .completed) →
    history.run.pops = 1 + referenceSum history.found
  /-- So it is when the consumer is about to be told of it. -/
  sent : history.run.listening = true → .finished .completed ∈ history.run.events →
    history.run.pops = 1 + referenceSum history.found
  /-- So it is when the consumer has been told, and then the coordinator is gone. -/
  completed : history.run.state = .completed →
    history.run.pops = 1 + referenceSum (answeredModules history.answers) ∧ history.run.coordinator = .exited

/-- A step of the coordinator keeps the balance. -/
theorem Tally.balance_coordinator (moved : Run.CoordinatorMoved before.signals before.run signals run)
    (orderly : before.run.Orderly) (tally : before.Tally) (heard : run.listening = true)
    (intact : run.coordinator.isIntact = true) :
    run.pops + run.queue.length + run.references.length = 1 + referenceSum (taken { before with signals, run }) := by
  have started := orderly.not_idle moved
  have balance := tally.balance
  cases moved with
  | roundCancelled _ _ | roundStopped _ _ | weighedCancelled _ _ _ | refused _ _ | abandoned _ _ _
  | closedCancelled _ _ | closedStopped _ _ | drained _ _ _ | unheard _ _ _ | announced _ _ _ _ =>
    cases intact
  | passedOver outcome _ _ stage wrong _ =>
    -- Results are passed over only once something has gone wrong.
    cases outcome <;> simp_all [CoordinatorStage.isIntact]
  -- Neither the queue nor the references nor the modules change.
  | roundStarted stage _ | roundOpen stage _ | weighed _ stage _ | closed stage _ | taken _ _ stage _
  | sent _ stage _ _ =>
    simpa [taken, found, CoordinatorStage.accepted, stage] using
      balance heard started (by simp [CoordinatorStage.isIntact, stage])
  | batchEnded outcome stage _ _ =>
    cases outcome with
    | goOn =>
      simpa [taken, found, CoordinatorStage.accepted, Run.afterBatch, stage] using
        balance heard started (by simp [CoordinatorStage.isIntact, stage])
    | faulted error => cases intact
    | cancelled => cases intact
    | abandoned => cases intact
  | dispatched stage _ | skipped stage _ _ =>
    -- What leaves the queue is counted as taken, and no references were left over.
    have gathered := orderly.gathered (by rw [stage]; rfl)
    have same := balance heard started (by simp [CoordinatorStage.isIntact, stage])
    simp only [taken, found, CoordinatorStage.accepted, stage, gathered, List.append_nil, List.length_nil,
      List.length_take, List.length_drop] at same ⊢
    omega
  | accepted module stage =>
    -- The references of the module wait from now on.
    have same := balance heard started (by simp [CoordinatorStage.isIntact, stage])
    simp only [taken, found, CoordinatorStage.accepted, stage, List.append_nil, List.length_append,
      referenceSum_append, referenceSum_singleton] at same ⊢
    omega
  | queued stage _ =>
    -- References that waited stand in the queue from now on.
    have same := balance heard started (by simp [CoordinatorStage.isIntact, stage])
    simp only [taken, found, CoordinatorStage.accepted, stage, List.append_nil, List.length_append,
      List.length_nil] at same ⊢
    omega

/-- A step of the coordinator keeps the tally. -/
theorem Tally.coordinator (moved : Run.CoordinatorMoved before.signals before.run signals run)
    (orderly : before.run.Orderly) (endings : before.Endings sources) (tally : before.Tally) :
    Tally { before with signals, run } where
  balance heard _ intact := tally.balance_coordinator moved orderly heard intact
  announced heard announcing := by
    have started := orderly.not_idle moved
    cases moved with
    | drained stage _ empty =>
      -- The queue is empty now, and there was nothing else to wait for.
      have gathered := orderly.gathered (by rw [stage]; rfl)
      have same := tally.balance heard started (by simp [CoordinatorStage.isIntact, stage])
      have short : before.run.queue.length ≤ before.run.limit := List.drop_eq_nil_iff.mp empty
      simp only [taken, found, CoordinatorStage.accepted, stage, gathered, List.append_nil, List.length_nil,
        List.length_take] at same ⊢
      omega
    -- No other step leads to the announcement that all is done.
    | batchEnded outcome _ _ _ => cases outcome <;> cases announcing
    | passedOver _ _ _ stage _ _ => cases stage.symm.trans announcing
    | _ => cases announcing
  sent heard member := by
    -- Before its last step the coordinator has told the consumer of nothing but modules.
    have listened : before.run.listening = true := by cases moved <;> exact heard
    have modules := endings.modules listened moved.active
    have untold : .finished .completed ∉ before.run.events := by
      rw [modules]
      simp
    cases moved with
    | announced event stage _ _ =>
      have new : .finished .completed = event := by simpa [untold] using member
      subst new
      simpa [found, sentModules] using tally.announced listened stage
    -- A module is no such announcement.
    | sent module _ _ _ => simp [untold] at member
    | _ => exact absurd member untold
  completed ended := by
    have there := moved.active
    have state : before.run.state = .completed := by cases moved <;> exact ended
    exact absurd (tally.completed state).2 there

/-- A step of a worker does not touch the tally. -/
theorem Tally.worker (moved : Run.WorkerMoved sources before.signals before.run run) (tally : before.Tally) :
    Tally { before with run } := by
  cases moved <;> exact ⟨tally.balance, tally.announced, tally.sent, tally.completed⟩

/-- A run that has ended for its consumer keeps the tally if that is complete. -/
theorem Tally.finish {state : RunState} {answer : Option ModuleOutcome}
    (complete : state = .completed →
      before.run.pops = 1 + referenceSum (answeredModules before.answers) ∧ before.run.coordinator = .exited) :
    Tally { before with
      signals := (before.run.finish before.signals state answer).1
      run := (before.run.finish before.signals state answer).2 } where
  balance heard := by cases heard
  announced heard := by cases heard
  sent heard := by cases heard
  completed ended := complete ended

/-- A step of the consumer keeps the tally: what it is told of stays found. -/
theorem Tally.consumer {answer : Option (Option ModuleOutcome)}
    (moved : Run.ConsumerMoved before.signals before.run signals run answer) (orderly : before.run.Orderly)
    (endings : before.Endings sources) (tally : before.Tally) :
    Tally { before with signals, run, answers := before.answers ++ answer.toList } := by
  cases moved with
  -- With these ends nothing has been completed.
  | cancelled stage _ | failed _ _ stage _ | deserted stage _ _ => simpa using Tally.finish (by simp)
  | finished state rest stage events =>
    have heard := orderly.heard (orderly.asks (Or.inr stage))
    have last : (RunEvent.finished state).isLast = true := orderly.ended events
    obtain ⟨gone, rfl, _⟩ := endings.parting heard events last
    simp only [Option.toList_none, List.append_nil]
    refine Tally.finish fun same => ⟨?_, gone⟩
    -- All modules have been answered before the end is told.
    subst same
    have due := tally.sent heard (by simp [events])
    simpa [found, events, sentModules] using due
  | waited stage _ | timedOut stage _ _ =>
    simp only [Option.toList_none, List.append_nil]
    exact ⟨tally.balance, tally.announced, tally.sent, tally.completed⟩
  | received module rest stage events =>
    have draining := orderly.asks (Or.inr stage)
    -- The module is only told of in another place.
    have same : found { before with
        run := { before.run with events := rest, consumer := .resting }
        answers := before.answers ++ (some (some (.ok module))).toList } = before.found := by
      simp [found, events, answeredModules]
    refine ⟨fun heard started intact => ?_, fun heard announcing => ?_, fun heard member => ?_, fun ended => ?_⟩
    · simpa only [taken, same] using tally.balance heard started intact
    · simpa only [same] using tally.announced heard announcing
    · simpa only [same] using tally.sent heard (by simp [events, member])
    · cases draining.symm.trans ended
  | answered outcome stage gone =>
    have joins := orderly.joins outcome stage
    -- Nobody listens, so only the last part says something.
    have deaf : before.run.listening = false := by simp [orderly.listens, joins.1]
    refine ⟨fun heard => ?_, fun heard => ?_, fun heard => ?_, fun ended => ?_⟩
    · cases deaf.symm.trans heard
    · cases deaf.symm.trans heard
    · cases deaf.symm.trans heard
    · simpa [answeredModules_none joins.2] using tally.completed ended

/-- A call keeps the tally: the first one queues the seed. -/
theorem Tally.call (sound : before.Sound sources) (tally : before.Tally) :
    Tally { before with run := before.run.call } := by
  unfold Run.call
  split
  · -- One path has been queued, and it is the one in excess of the references.
    rename_i idle
    have untouched := sound.orderly.untouched idle
    have silent := sound.silent idle
    refine ⟨fun _ _ _ => ?_, fun _ announcing => ?_, fun _ member => ?_, fun ended => ?_⟩
    · rw [untouched]
      simp [taken, found, CoordinatorStage.accepted, silent, answeredModules]
    · cases announcing
    · rw [untouched] at member
      cases member
    · cases ended
  -- Later calls do not touch it.
  all_goals exact ⟨tally.balance, tally.announced, tally.sent, tally.completed⟩

/-- Every move keeps the tally. -/
theorem Tally.step (moved : before.Moved sources move after) (sound : before.Sound sources)
    (tally : before.Tally) : after.Tally := by
  cases moved with
  | coordinator moved => exact tally.coordinator moved sound.orderly sound.endings
  | worker _ moved => exact tally.worker moved
  | consumer moved => exact tally.consumer moved sound.orderly sound.endings
  | called _ => exact tally.call sound
  | cancelled _ _ => exact ⟨tally.balance, tally.announced, tally.sent, tally.completed⟩

/-- In a run that has been made nothing is to be tallied. -/
theorem tally_start (signals : Signals) (token : CancelToken) (seed : Path) (limit : Nat) :
    (start signals token seed limit).Tally where
  balance _ started := absurd rfl started
  announced _ announcing := by cases announcing
  sent _ member := by cases member
  completed ended := by cases ended

end History

end ModuleScope
