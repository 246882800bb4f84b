import Mathlib.Data.Set.Finite.Lattice
import ModuleScope.Proofs.Discovery.Sound

/-! The work that is left in a run: every step that is more than a look takes some of it away. -/

namespace ModuleScope

/-- The work that is left in an outcome: its references are queued, and the consumer is told of it. -/
def outcomeWork : ModuleOutcome → Nat
  | .ok module => 3 * module.declared.references.length + 6
  | .error _ => 6

/-- The work that is left in a worker whose module has at most so many references. -/
def WorkerStage.work (most : Nat) : WorkerStage → Nat
  -- Asking for a permit again and again gets nothing done.
  | .arriving | .waiting => 3 * most + 10
  | .admitted => 3 * most + 9
  | .reading => 3 * most + 8
  | .leaving => 1
  | .gone => 0

/-- The work that is left in the stage of the coordinator. -/
def CoordinatorStage.work : CoordinatorStage → Nat
  | .unstarted => 9
  | .checking => 6
  | .checkingStop => 5
  | .dispatching => 4
  | .collecting _ => 9
  | .weighing result => outcomeWork result + 8
  | .accepting result => outcomeWork result + 7
  | .sending _ => 12
  | .closing => 8
  | .closingStop => 7
  | .announcing _ => 3
  | .exited => 0

/-- The work that is left in the stage of the consumer. -/
def ConsumerStage.work : ConsumerStage → Nat
  | .resting => 2
  | .checking | .receiving => 1
  | .joining _ => 0

namespace Run

/-- The work that is left in workers whose modules have at most so many references each. -/
def workersWork (most : Nat) : List Worker → Nat
  | [] => 0
  | worker :: rest => worker.stage.work most + workersWork most rest

/-- The work that is left in outcomes. -/
def outcomesWork : List ModuleOutcome → Nat
  | [] => 0
  | outcome :: rest => outcomeWork outcome + outcomesWork rest

/-- The work that is left in a run that meets at most `total` modules with at most `most` references each. -/
def work (most total : Nat) (run : Run) : Nat :=
  (3 * most + 16) * (total - run.seen.length) + 3 * (run.queue.length + run.references.length)
    + workersWork most run.workers + outcomesWork run.results + 2 * run.events.length
    + run.coordinator.work + run.consumer.work

/-- Work is left in workers side by side. -/
theorem workersWork_append (most : Nat) (front back : List Worker) :
    workersWork most (front ++ back) = workersWork most front + workersWork most back := by
  induction front with
  | nil => simp [workersWork]
  | cons worker rest ih =>
    -- The work of the first worker is counted apart.
    simp only [List.cons_append, workersWork, ih]
    omega

/-- A further outcome is the last one with work in it. -/
theorem outcomesWork_append (outcomes : List ModuleOutcome) (last : ModuleOutcome) :
    outcomesWork (outcomes ++ [last]) = outcomesWork outcomes + outcomeWork last := by
  induction outcomes with
  | nil => simp [outcomesWork]
  | cons outcome rest ih =>
    simp only [List.cons_append, outcomesWork, ih]
    omega

/-- A batch of new workers has all of its work before it. -/
theorem workersWork_started (most : Nat) (batch : List Path) :
    workersWork most (batch.map fun path => ⟨path, .arriving⟩) = (3 * most + 10) * batch.length := by
  induction batch with
  | nil => rfl
  | cons path rest ih =>
    simp only [List.map_cons, workersWork, WorkerStage.work, ih, List.length_cons, Nat.mul_succ]
    omega

/-- An outcome always leaves work for the coordinator and the consumer. -/
theorem six_le_outcomeWork (outcome : ModuleOutcome) : 6 ≤ outcomeWork outcome := by
  cases outcome <;> simp [outcomeWork]

variable {most total : Nat} {signals signals' : Signals} {run run' : Run}

/-- Handing out a batch takes work away: that of each path is counted before it is seen. -/
theorem work_dispatched (stage : run.coordinator = .dispatching) (fresh : run.batch ≠ [])
    (room : (run.batch.reverse ++ run.seen).length ≤ total) :
    work most total
        { run with
          queue := run.queue.drop run.limit
          seen := run.batch.reverse ++ run.seen
          pops := run.pops + (run.queue.take run.limit).length
          workers := run.batch.map fun path => ⟨path, .arriving⟩
          references := []
          coordinator := .collecting .goOn } < work most total run := by
  have some : 0 < run.batch.length := List.length_pos_iff.mpr fresh
  simp only [List.length_append, List.length_reverse] at room
  -- What was counted for paths that have not been seen is counted for the batch from now on.
  have split : total - run.seen.length = (total - (run.batch.length + run.seen.length)) + run.batch.length := by
    omega
  -- Each path of the batch is worth a worker and six more.
  have share : (3 * most + 16) * run.batch.length = (3 * most + 10) * run.batch.length + 6 * run.batch.length := by
    rw [← Nat.add_mul]
  have shorter : (run.queue.drop run.limit).length ≤ run.queue.length := by
    simp
  simp only [work, stage, CoordinatorStage.work, List.length_append, List.length_reverse, List.length_nil]
  rw [split, Nat.mul_add (3 * most + 16), share, workersWork_started]
  omega

/-- Every step of the coordinator takes work away. -/
theorem work_coordinator (moved : CoordinatorMoved signals run signals' run') (limit : 0 < run.limit)
    (room : run'.seen.length ≤ total) : work most total run' < work most total run := by
  cases moved with
  | dispatched stage fresh => exact work_dispatched stage fresh room
  -- The stages before and after these steps differ in their work, and nothing else changes.
  | roundCancelled stage _ | roundStarted stage _ | roundStopped stage _ | roundOpen stage _
  | abandoned _ stage _ | closedCancelled stage _ | closed stage _ | closedStopped stage _ | unheard _ stage _ =>
    simp only [work, stage, CoordinatorStage.work]
    omega
  | drained stage _ _ =>
    simp only [work, stage, CoordinatorStage.work, List.length_nil]
    omega
  | skipped stage _ more =>
    -- At least one path has left the queue.
    have left : 0 < (run.queue.drop run.limit).length := List.length_pos_iff.mpr more
    simp only [List.length_drop] at left
    simp only [work, stage, CoordinatorStage.work, List.length_drop]
    omega
  | taken result rest stage results =>
    simp only [work, stage, results, CoordinatorStage.work, outcomesWork]
    omega
  | passedOver outcome result rest stage _ results =>
    -- The result that is passed over is worth some work.
    have worth := six_le_outcomeWork result
    simp only [work, stage, results, CoordinatorStage.work, outcomesWork]
    omega
  | batchEnded outcome stage results _ =>
    cases outcome <;>
      simp only [work, stage, results, afterBatch, CoordinatorStage.work, workersWork, outcomesWork] <;>
      omega
  | weighedCancelled result stage _ =>
    -- The result in hand is given up with its work.
    have worth := six_le_outcomeWork result
    simp only [work, stage, CoordinatorStage.work]
    omega
  | weighed result stage _ =>
    simp only [work, stage, CoordinatorStage.work]
    omega
  | accepted module stage =>
    -- The references of the module have been counted with it.
    simp only [work, stage, CoordinatorStage.work, outcomeWork, List.length_append]
    omega
  | refused error stage =>
    simp only [work, stage, CoordinatorStage.work, outcomeWork]
    omega
  | sent module stage _ _ =>
    -- An event is left for the consumer, which costs less than sending it.
    simp only [work, stage, CoordinatorStage.work, List.length_append, List.length_singleton]
    omega
  | announced event stage _ _ =>
    simp only [work, stage, CoordinatorStage.work, List.length_append, List.length_singleton]
    omega
  | queued stage _ =>
    simp only [work, stage, CoordinatorStage.work, List.length_append, List.length_nil]
    omega

/-- The step of a worker is just a look: it asks for a permit, or it waits for one while there is none. -/
def isWorkerLook (signals : Signals) (run : Run) (index : Nat) : Bool :=
  match run.workers[index]? with
  | some ⟨_, .arriving⟩ => !signals.isCancelled run.stop
  | some ⟨_, .waiting⟩ => run.gate.take?.isNone
  | _ => false

/-- No step of a worker adds work, and each one that is more than a look takes some away. -/
theorem work_worker {sources : ModuleSources} {index : Nat}
    (stepped : run.workerStep sources signals index = some run')
    (few : ∀ path ∈ pathsAt WorkerStage.isDue run.workers, ∀ module,
      sources.describe path = .ok module → module.declared.references.length ≤ most) :
    work most total run' ≤ work most total run ∧
      (run.isWorkerLook signals index = false → work most total run' < work most total run) := by
  obtain ⟨⟨path, stage⟩, found, stepped⟩ := Option.bind_eq_some_iff.mp stepped
  obtain ⟨front, back, workers, changed⟩ := split_of_getElem? found
  -- All but one of the workers have the same work before and after.
  have before : workersWork most run.workers =
      workersWork most front + (stage.work most + workersWork most back) := by
    rw [workers, workersWork_append, workersWork]
  have after : ∀ next : WorkerStage, workersWork most (run.workers.set index ⟨path, next⟩) =
      workersWork most front + (next.work most + workersWork most back) := by
    intro next
    rw [changed, workersWork_append, workersWork]
  cases stage with
  | arriving =>
    -- Being turned away is work, being asked to wait is a look.
    dsimp only at stepped
    split at stepped <;> cases stepped
    · simp only [setStage, work, before, after, WorkerStage.work]
      omega
    · rename_i going
      have look : run.isWorkerLook signals index = true := by simp [isWorkerLook, found, going]
      rw [look]
      simp only [setStage, work, before, after, WorkerStage.work, Bool.true_eq_false, false_implies, and_true]
      omega
  | waiting =>
    -- Waiting on without a permit is a look.
    dsimp only at stepped
    split at stepped <;> cases stepped
    · simp only [setStage, work, before, after, WorkerStage.work]
      omega
    · rename_i full
      have look : run.isWorkerLook signals index = true := by simp [isWorkerLook, found, full]
      rw [look]
      simp only [setStage, work, before, after, WorkerStage.work, Bool.true_eq_false, false_implies, and_true]
      omega
  | admitted =>
    dsimp only at stepped
    split at stepped <;> cases stepped <;> simp only [setStage, work, before, after, WorkerStage.work] <;> omega
  | reading =>
    cases stepped
    -- What is read is worth no more than was expected of it.
    have worth : outcomeWork (sources.describe path) ≤ 3 * most + 6 := by
      have due : path ∈ pathsAt WorkerStage.isDue run.workers := by
        rw [workers]
        simp [WorkerStage.isDue]
      cases described : sources.describe path with
      | error error => simp [outcomeWork]
      | ok module =>
        have bounded := few path due module described
        simp only [outcomeWork]
        omega
    simp only [setStage, work, before, after, WorkerStage.work, outcomesWork_append]
    omega
  | leaving =>
    cases stepped
    simp only [setStage, work, before, after, WorkerStage.work]
    omega
  | gone => cases stepped

/-- The step of the consumer is just a look: at its token, or for an event while there is none. -/
def isConsumerLook (run : Run) : Bool :=
  match run.consumer with
  | .checking => true
  | .receiving => run.events.isEmpty
  | _ => false

/-- No step of the consumer adds work in a run that is under way, and each one that is more than a look takes some
away. -/
theorem work_consumer {answer : Option (Option ModuleOutcome)}
    (moved : ConsumerMoved signals run signals' run' answer) (orderly : run.Orderly)
    (going : run.state.hasEnded = false) :
    work most total run' ≤ work most total run ∧
      (run.isConsumerLook = false → work most total run' < work most total run) := by
  cases moved with
  | cancelled stage _ | failed _ _ stage _ | finished _ _ stage _ | deserted stage _ _ =>
    -- With the end all events are dropped.
    simp only [finish, work, stage, ConsumerStage.work, List.length_nil]
    omega
  | waited stage _ =>
    -- Looking at the token or for an event is no work.
    simp [isConsumerLook, work, stage, ConsumerStage.work]
  | timedOut stage events _ =>
    simp [isConsumerLook, work, stage, events, ConsumerStage.work]
  | received module rest stage events =>
    simp only [work, stage, events, ConsumerStage.work, List.length_cons]
    omega
  | answered answer stage _ =>
    -- A call is joined only when the run has ended.
    have ended := (orderly.joins answer stage).1
    cases going.symm.trans ended

/-- Every call takes work away in a run that is under way. -/
theorem work_call (resting : run.consumer = .resting) (orderly : run.Orderly) (going : run.state.hasEnded = false) :
    work most total run.call < work most total run := by
  unfold call
  split
  · -- The first call starts the coordinator, which had been counted before.
    rename_i idle
    have unstarted : run.coordinator = .unstarted := by rw [orderly.untouched idle]
    simp only [work, resting, unstarted, ConsumerStage.work, CoordinatorStage.work, List.length_singleton]
    omega
  · simp only [work, resting, ConsumerStage.work]
    omega
  -- After the end nothing is claimed.
  all_goals
    rename_i ended
    rw [ended] at going
    cases going

end Run

namespace History

/-- The move is just a look, or it is made by somebody outside of the run. -/
def isLook (history : History) : Move → Bool
  | .act .coordinator | .call => false
  | .act (.worker index) => history.run.isWorkerLook history.signals index
  | .act .consumer => history.run.isConsumerLook
  | .cancel _ => true

/-- How many of the moves are more than looks and are made before the run has ended. -/
def labour (sources : ModuleSources) (history : History) : List Move → Nat
  | [] => 0
  | move :: rest =>
    match history.move? sources move with
    | none => 0
    | some next => (if history.run.state.hasEnded || history.isLook move then 0 else 1) + next.labour sources rest

end History

/-- What a run from the seed may meet: these paths, and so many references at most at each of them. -/
structure ModuleSources.Limited (sources : ModuleSources) (seed : Path) (paths : List Path) (most : Nat) : Prop where
  /-- The seed leads to none but these paths. -/
  reached : ∀ path, sources.references.Reaches seed path → path ∈ paths
  /-- None of their modules has more references. -/
  few : ∀ path ∈ paths, ∀ module, sources.describe path = .ok module → module.declared.references.length ≤ most

/-- A seed that leads to none but certain paths is limited to them: one of their modules has the most references. -/
theorem ModuleSources.limited_of_listed {sources : ModuleSources} {seed : Path} {paths : List Path}
    (reached : ∀ path, sources.references.Reaches seed path → path ∈ paths) :
    ∃ most, sources.Limited seed paths most := by
  let count (path : Path) : Nat := (sources.describe path).toOption.elim 0 fun module =>
    module.declared.references.length
  -- Finitely many modules have a largest number of references.
  obtain ⟨most, bounded⟩ := ((List.finite_toSet paths).image count).bddAbove
  refine ⟨most, reached, ?_⟩
  intro path listed module described
  have counted : count path = module.declared.references.length := by
    simp [count, described, Except.toOption]
  rw [← counted]
  exact bounded ⟨path, listed, rfl⟩

/-- A seed that leads to finitely many paths only is limited to some of them. -/
theorem ModuleSources.limited_of_finite {sources : ModuleSources} {seed : Path}
    (finite : {path | sources.references.Reaches seed path}.Finite) :
    ∃ paths most, sources.Limited seed paths most := by
  have listed : ∀ path, sources.references.Reaches seed path → path ∈ finite.toFinset.toList := by
    intro path reached
    simpa using reached
  exact ⟨_, limited_of_listed listed⟩

namespace History

variable {sources : ModuleSources} {history before after : History} {paths : List Path} {most : Nat}

/-- No more paths are seen than the seed leads to. -/
theorem Sound.seen_le (sound : history.Sound sources) (limited : sources.Limited history.run.seed paths most) :
    history.run.seen.length ≤ paths.length := by
  have among : history.run.seen ⊆ paths := fun path seen =>
    limited.reached path (sound.accounts.reached path (Or.inr (Or.inr seen)))
  exact (List.subperm_of_subset sound.ledger.nodup_seen among).length_le

/-- Nothing is read more often than there are paths that the seed leads to. -/
theorem Sound.reads_le (sound : history.Sound sources) (limited : sources.Limited history.run.seed paths most) :
    history.run.reads.length ≤ paths.length := by
  have drawn := sound.ledger.drawn.length_le
  have seen := sound.seen_le limited
  simp only [List.length_append] at drawn
  omega

/-- The module of a worker from which an outcome is due has no more references than others may have. -/
theorem Sound.few (sound : history.Sound sources) (limited : sources.Limited history.run.seed paths most) :
    ∀ path ∈ Run.pathsAt WorkerStage.isDue history.run.workers, ∀ module,
      sources.describe path = .ok module → module.declared.references.length ≤ most := by
  intro path due module described
  obtain ⟨_, _, drawn⟩ := sound.accounts.accounted
  have seen : path ∈ history.run.seen := drawn.subset (List.mem_append_right _ due)
  exact limited.few path (limited.reached path (sound.accounts.reached path (Or.inr (Or.inr seen)))) module described

/-- No move adds work in a run that is under way, and each one that is more than a look takes some away. -/
theorem work_move {move : Move} (sound : before.Sound sources) (limit : 0 < before.run.limit)
    (limited : sources.Limited before.run.seed paths most) (going : before.run.state.hasEnded = false)
    (moved : before.move? sources move = some after) :
    after.run.work most paths.length ≤ before.run.work most paths.length ∧
      (before.isLook move = false → after.run.work most paths.length < before.run.work most paths.length) := by
  have same := (move?_moved moved).sameRun
  have room : after.run.seen.length ≤ paths.length := (sound.step (move?_moved moved)).seen_le (same.seed ▸ limited)
  cases move with
  | act actor =>
    obtain ⟨⟨⟨signals, run⟩, answer⟩, stepped, rfl⟩ := Option.map_eq_some_iff.mp moved
    cases actor with
    | coordinator =>
      obtain ⟨⟨signals', run'⟩, took, same⟩ := Option.map_eq_some_iff.mp stepped
      cases same
      have less : run.work most paths.length < before.run.work most paths.length :=
        Run.work_coordinator (Run.coordinatorStep_moved took) limit room
      exact ⟨Nat.le_of_lt less, fun _ => less⟩
    | worker index =>
      obtain ⟨run', took, same⟩ := Option.map_eq_some_iff.mp stepped
      cases same
      exact Run.work_worker took (sound.few limited)
    | consumer => exact Run.work_consumer (Run.consumerStep_moved stepped) sound.orderly going
  | call =>
    cases move?_moved moved with
    | called resting =>
      have less : before.run.call.work most paths.length < before.run.work most paths.length :=
        Run.work_call resting sound.orderly going
      exact ⟨Nat.le_of_lt less, fun _ => less⟩
  | cancel token =>
    cases move?_moved moved with
    | cancelled _ _ => exact ⟨Nat.le_refl _, fun look => by cases look⟩

/-- A run that has ended stays so. -/
theorem Moved.ended {move : Move} (moved : before.Moved sources move after) (orderly : before.run.Orderly)
    (ended : before.run.state.hasEnded = true) : after.run.state.hasEnded = true := by
  cases moved with
  | coordinator moved => cases moved <;> exact ended
  | worker _ moved => cases moved <;> exact ended
  | consumer moved =>
    cases moved with
    -- A consumer that ends the run again has it ended.
    | cancelled _ _ | failed _ _ _ _ | deserted _ _ _ => rfl
    | finished _ _ _ events => exact orderly.ended events
    | _ => exact ended
  | called _ =>
    unfold Run.call
    split <;> simp_all [RunState.hasEnded]
  | cancelled _ _ => exact ended

/-- Whatever is done after the end of a run leaves it ended. -/
theorem ended_of_play? {moves : List Move} (played : before.play? sources moves = some after)
    (orderly : before.run.Orderly) (ended : before.run.state.hasEnded = true) : after.run.state.hasEnded = true := by
  -- That the run is in order is needed for each move, so it is kept along with the end.
  have kept : after.run.Orderly ∧ after.run.state.hasEnded = true :=
    @play?_keeps sources (fun history => history.run.Orderly ∧ history.run.state.hasEnded = true) _ _ _
      (fun _ _ _ _ moved known => ⟨moved.orderly known.1, moved.ended known.1 known.2⟩) played ⟨orderly, ended⟩
  exact kept.2

/-- After the end no move counts. -/
theorem labour_of_ended {moves : List Move} (orderly : history.run.Orderly)
    (ended : history.run.state.hasEnded = true) : history.labour sources moves = 0 := by
  induction moves generalizing history with
  | nil => rfl
  | cons move rest ih =>
    unfold labour
    cases moved : history.move? sources move with
    | none => rfl
    | some next =>
      have moved' := move?_moved moved
      simp [ended, ih (moved'.orderly orderly) (moved'.ended orderly ended)]

/-- Only so many moves before the end of a run are more than looks as there is work in it. -/
theorem Sound.labour_le {moves : List Move} (sound : history.Sound sources) (limit : 0 < history.run.limit)
    (limited : sources.Limited history.run.seed paths most) :
    history.labour sources moves ≤ history.run.work most paths.length := by
  induction moves generalizing history with
  | nil => exact Nat.zero_le _
  | cons move rest ih =>
    -- From the end on nothing counts.
    by_cases ended : history.run.state.hasEnded = true
    · rw [labour_of_ended sound.orderly ended]
      exact Nat.zero_le _
    · rw [Bool.not_eq_true] at ended
      unfold labour
      cases moved : history.move? sources move with
      | none => exact Nat.zero_le _
      | some next =>
        have same := (move?_moved moved).sameRun
        have later := ih (sound.step (move?_moved moved)) (same.limit ▸ limit) (same.seed ▸ limited)
        obtain ⟨atMost, less⟩ := work_move sound limit limited ended moved
        -- A move that counts pays for itself.
        cases look : history.isLook move with
        | true =>
          simp only [ended, Bool.or_true, if_true]
          omega
        | false =>
          have paid := less look
          simp only [ended, Bool.or_false, Bool.false_eq_true, if_false]
          omega

end History

end ModuleScope
