import ModuleScope.Proofs.Discovery.Completeness
import ModuleScope.Proofs.Discovery.Pops
import ModuleScope.Proofs.Discovery.Responses

/-! The rounds of a run come to an end, although some of them find nothing new: each is paid for by a path that was
taken from the queue. -/

namespace ModuleScope

/-- By how many rounds the coordinator may be ahead of the paths that it has taken from the queue. -/
def CoordinatorStage.lead : CoordinatorStage → Nat
  -- A round that has not taken its batch yet, or never will, is not paid for.
  | .checkingStop | .dispatching | .announcing _ | .exited => 1
  | .unstarted | .checking | .collecting _ | .weighing _ | .accepting _ | .sending _ | .closing | .closingStop => 0

/-- It is one at most. -/
theorem CoordinatorStage.lead_le_one (stage : CoordinatorStage) : stage.lead ≤ 1 := by
  cases stage <;> simp [lead]

namespace Run

variable {most total : Nat} {sources : ModuleSources} {signals signals' : Signals} {run run' : Run}

/-- Each round that was started before has taken a path from the queue. -/
def RoundsPaid (run : Run) : Prop := run.rounds ≤ run.pops + run.coordinator.lead

/-- A step of the coordinator pays for the round before it starts another one. -/
theorem RoundsPaid.coordinator (moved : CoordinatorMoved signals run signals' run') (limit : 0 < run.limit)
    (paid : run.RoundsPaid) : run'.RoundsPaid := by
  unfold RoundsPaid at paid ⊢
  cases moved with
  | dispatched stage fresh =>
    -- A batch that is not empty was taken from the queue.
    have some : 0 < run.batch.length := List.length_pos_iff.mpr fresh
    have taken : run.batch.length ≤ (run.queue.take run.limit).length := (selectUnseen_sublist _ _).length_le
    simp only [stage, CoordinatorStage.lead] at paid ⊢
    omega
  | skipped stage _ more =>
    -- More was in the queue than one round takes, and it takes something.
    have left : 0 < (run.queue.drop run.limit).length := List.length_pos_iff.mpr more
    simp only [List.length_drop] at left
    simp only [stage, CoordinatorStage.lead, List.length_take] at paid ⊢
    omega
  | batchEnded outcome stage _ _ =>
    -- The lead of the round is settled, whatever the batch came to.
    rw [stage] at paid
    cases outcome <;> simp only [CoordinatorStage.lead, afterBatch] at paid ⊢ <;> omega
  | passedOver _ _ _ _ _ _ => exact paid
  -- None of these steps takes from the queue, and only the first of a round counts one.
  | roundCancelled stage _ | roundStarted stage _ | roundStopped stage _ | roundOpen stage _ | drained stage _ _
  | taken _ _ stage _ | weighedCancelled _ stage _ | weighed _ stage _ | accepted _ stage | refused _ stage
  | abandoned _ stage _ | sent _ stage _ _ | closedCancelled stage _ | closed stage _ | closedStopped stage _
  | queued stage _ | unheard _ stage _ | announced _ stage _ _ =>
    simp only [stage, CoordinatorStage.lead] at paid ⊢
    omega

/-- The work that is left for the coordinator, without what only the consumer has to do. -/
def duty (most total : Nat) (run : Run) : Nat :=
  (3 * most + 16) * (total - run.seen.length) + 3 * (run.queue.length + run.references.length)
    + workersWork most run.workers + outcomesWork run.results + run.coordinator.work

/-- The rest of the work is with the events and the consumer. -/
theorem work_eq_duty : run.work most total = run.duty most total + 2 * run.events.length + run.consumer.work := by
  simp only [work, duty]
  omega

/-- A step of the coordinator is part of its duty. -/
theorem duty_coordinator (moved : CoordinatorMoved signals run signals' run') (limit : 0 < run.limit)
    (room : run'.seen.length ≤ total) : run'.duty most total < run.duty most total := by
  have less := @work_coordinator most total _ _ _ _ moved limit room
  -- The consumer has no less to do than before.
  have more : run.events.length ≤ run'.events.length ∧ run'.consumer = run.consumer := by
    cases moved <;> simp
  rw [work_eq_duty, work_eq_duty, more.2] at less
  omega

/-- No step of a worker adds to the duty of the coordinator. -/
theorem duty_worker {index : Nat} (stepped : run.workerStep sources signals index = some run')
    (few : ∀ path ∈ pathsAt WorkerStage.isDue run.workers, ∀ module,
      sources.describe path = .ok module → module.declared.references.length ≤ most) :
    run'.duty most total ≤ run.duty most total := by
  -- Its work is not less than the step takes away, and the consumer's share stays the same.
  have atMost := (@work_worker most total _ _ _ _ _ stepped few).1
  have frame := (workerStep_moved stepped).frame
  have events : run'.events = run.events := by rw [frame]
  have consumer : run'.consumer = run.consumer := by rw [frame]
  rw [work_eq_duty, work_eq_duty, events, consumer] at atMost
  omega

/-- No step of the consumer changes the duty of the coordinator. -/
theorem duty_consumer {answer : Option (Option ModuleOutcome)}
    (moved : ConsumerMoved signals run signals' run' answer) : run'.duty most total = run.duty most total := by
  cases moved <;> rfl

/-- The first call starts the coordinator with the seed, which is part of its duty already. -/
theorem duty_call (orderly : run.Orderly) : run.call.duty most total = run.duty most total := by
  unfold call
  split
  · rename_i idle
    rw [orderly.untouched idle]
    simp only [duty, CoordinatorStage.work, List.length_nil, List.length_singleton]
    omega
  all_goals rfl

end Run

/-- The move is a step of the coordinator. -/
def Move.isCoordinator : Move → Bool
  | .act .coordinator => true
  | _ => false

/-- Where spelling does not matter, it adds only finitely many paths to those that the seed leads to. -/
theorem ReferenceAnswers.ByPath.finite_of_among {answers : ReferenceAnswers} (byPath : answers.ByPath) {seed : Path}
    {paths : List Path} (among : ∀ path, answers.Reaches seed path → path.IsAmong paths) :
    {path | answers.Reaches seed path}.Finite := by
  -- Each path but the seed is listed at one of the paths, in the spelling in which it was reached.
  refine (List.finite_toSet (seed :: paths.flatMap answers.listed)).subset fun path reached => ?_
  rcases Relation.ReflTransGen.cases_tail reached with rfl | ⟨referrer, before, references, given, member⟩
  · exact List.mem_cons_self
  · obtain ⟨other, inside, same⟩ := among referrer before
    have listed : path ∈ answers.listed other :=
      ReferenceAnswers.mem_listed_iff.mpr ⟨references, byPath _ _ _ same given, member⟩
    exact List.mem_cons_of_mem _ (List.mem_flatMap.mpr ⟨other, inside, listed⟩)

/-- None of finitely many paths has more references than there are altogether. -/
theorem ModuleSources.limited_of_sum {sources : ModuleSources} {seed : Path}
    (finite : {path | sources.references.Reaches seed path}.Finite) :
    sources.Limited seed finite.toFinset.toList
      (∑ path ∈ finite.toFinset, (sources.references.listed path).length) where
  reached path reached := by simpa using reached
  few path member module described := by
    have listed : sources.references.listed path = module.declared.references := by
      rw [listed_references, described, outcomeReferences]
    rw [← listed]
    exact Finset.single_le_sum (f := fun path => (sources.references.listed path).length)
      (fun _ _ => Nat.zero_le _) (Finset.mem_toList.mp member)

namespace History

variable {sources : ModuleSources} {history before after last : History} {move : Move} {paths : List Path} {most : Nat}

/-- Every move pays for the rounds that were started. -/
theorem Moved.roundsPaid (moved : before.Moved sources move after) (limit : 0 < before.run.limit)
    (orderly : before.run.Orderly) (paid : before.run.RoundsPaid) : after.run.RoundsPaid := by
  cases moved with
  | coordinator moved => exact paid.coordinator moved limit
  | worker _ moved => cases moved <;> exact paid
  | consumer moved => cases moved <;> exact paid
  | called _ =>
    unfold Run.call
    split
    · -- Before the first call there were no rounds.
      rename_i idle
      rw [orderly.untouched idle]
      exact Nat.zero_le _
    all_goals exact paid
  | cancelled _ _ => exact paid

/-- No move adds to the duty of the coordinator, and each of its own steps takes some away. -/
theorem duty_move (sound : before.Sound sources) (limit : 0 < before.run.limit)
    (limited : sources.Limited before.run.seed paths most) (moved : before.move? sources move = some after) :
    (if move.isCoordinator then 1 else 0) + after.run.duty most paths.length ≤ before.run.duty most paths.length := by
  have same := (move?_moved moved).sameRun
  have room : after.run.seen.length ≤ paths.length := (sound.step (move?_moved moved)).seen_le (same.seed ▸ limited)
  cases move with
  | act actor =>
    obtain ⟨⟨⟨signals, run⟩, answer⟩, stepped, rfl⟩ := Option.map_eq_some_iff.mp moved
    cases actor with
    | coordinator =>
      -- Its own steps are what the duty counts.
      obtain ⟨⟨signals', run'⟩, took, same⟩ := Option.map_eq_some_iff.mp stepped
      cases same
      have less : run.duty most paths.length < before.run.duty most paths.length :=
        Run.duty_coordinator (Run.coordinatorStep_moved took) limit room
      simp only [Move.isCoordinator, if_true]
      omega
    | worker index =>
      -- What others do may hand it results, which were part of its duty.
      obtain ⟨run', took, same⟩ := Option.map_eq_some_iff.mp stepped
      cases same
      simpa [Move.isCoordinator] using Run.duty_worker took (sound.few limited)
    | consumer =>
      simpa [Move.isCoordinator] using Nat.le_of_eq (Run.duty_consumer (Run.consumerStep_moved stepped))
  | call =>
    cases move?_moved moved with
    | called _ => simpa [Move.isCoordinator] using Nat.le_of_eq (Run.duty_call sound.orderly)
  | cancel token =>
    cases move?_moved moved with
    | cancelled _ _ => simp [Move.isCoordinator]

/-- The coordinator takes no more steps than are its duty. -/
theorem Sound.coordinator_steps_le {moves : List Move} (sound : history.Sound sources) (limit : 0 < history.run.limit)
    (limited : sources.Limited history.run.seed paths most) (played : history.play? sources moves = some last) :
    moves.countP Move.isCoordinator ≤ history.run.duty most paths.length := by
  induction moves generalizing history with
  | nil => exact Nat.zero_le _
  | cons move rest ih =>
    obtain ⟨next, moved, played⟩ := Option.bind_eq_some_iff.mp played
    have same := (move?_moved moved).sameRun
    have later := ih (sound.step (move?_moved moved)) (same.limit ▸ limit) (same.seed ▸ limited) played
    -- Each move leaves as much duty as the moves after it need.
    have paid := duty_move sound limit limited moved
    rw [List.countP_cons]
    omega

/-- The seed of a run that completes leads to finitely many paths. -/
theorem Sound.finite_of_completed (sound : history.Sound sources) (byPath : sources.ByPath)
    (completed : history.run.state = .completed) :
    {path | sources.references.Reaches history.run.seed path}.Finite := by
  have all := (sound.discovers byPath completed).all
  refine (byPath.readReferences.finite_of_among all).subset fun path reached => ?_
  exact ModuleSources.reaches_readReferences reached

/-- A run that is under way can go on until its coordinator is gone. -/
theorem Underway.exits (underway : history.Underway sources paths most) :
    ∃ final, GoesOn sources history final ∧ final.run.coordinator = .exited := by
  obtain ⟨ended, goesOn, finished⟩ := underway.ends
  have steady : ended.Steady sources := goesOn.steady underway.toSteady
  -- Nobody listens after the end, so that the coordinator waits for nothing but its workers.
  have deaf : ended.run.listening = false := by simp [steady.sound.orderly.listens, finished]
  have started : ended.run.state ≠ .idle := by
    intro idle
    simp [idle, RunState.hasEnded] at finished
  obtain ⟨final, turns, ⟨_, heard⟩ | ⟨_, gone⟩⟩ := steady.tells started (by simp [deaf])
  · cases deaf.symm.trans heard
  · exact ⟨final, goesOn.trans turns.acts.goesOn, gone⟩

/-- All that is known of the rounds of a run. -/
structure Counted (sources : ModuleSources) (history : History) : Prop extends history.Steady sources where
  /-- Each round has been paid for. -/
  paid : history.run.RoundsPaid
  /-- What is taken from the queue is covered by what has been seen. -/
  covered : history.run.PopsCovered sources
  /-- It is told by the modules that were found. -/
  tally : history.Tally

/-- Every move keeps count of the rounds. -/
theorem Counted.step (moved : before.Moved sources move after) (counted : before.Counted sources) :
    after.Counted sources where
  toSteady := counted.toSteady.step moved
  paid := moved.roundsPaid counted.limit counted.sound.orderly counted.paid
  covered := moved.popsCovered counted.sound.orderly counted.covered
  tally := counted.tally.step moved counted.sound

/-- So it is in all histories of a run. -/
theorem counted_of_play? {signals : Signals} {token : CancelToken} {seed : Path} {limit : Nat} {moves : List Move}
    (played : (start signals token seed limit).play? sources moves = some last) : last.Counted sources := by
  have initially : (start signals token seed limit).Counted sources :=
    { @steady_of_play? sources _ signals token seed limit [] rfl with
      paid := Nat.zero_le _
      covered := Nat.zero_le _
      tally := tally_start signals token seed limit }
  exact play?_keeps (fun _ _ _ _ moved counted => counted.step moved) played initially

/-- The rounds of a run whose seed leads to finitely many paths come to an end: in every history there is at most one
more of them than paths were taken from the queue, there are only so many of these, and only so many steps of the
coordinator, which can always go on until it is gone. If the run completes, the paths taken from the queue are the seed
and all references of the modules answered. -/
theorem rounds_come_to_an_end {seed : Path} (finite : {path | sources.references.Reaches seed path}.Finite)
    {signals : Signals} {token : CancelToken} {limit : Nat} {moves : List Move}
    (played : (start signals token seed limit).play? sources moves = some last) :
    last.run.rounds ≤ last.run.pops + 1 ∧
      last.run.pops ≤ 1 + ∑ path ∈ finite.toFinset, (sources.references.listed path).length ∧
      moves.countP Move.isCoordinator ≤
        (3 * ∑ path ∈ finite.toFinset, (sources.references.listed path).length + 16) * finite.toFinset.card + 9 ∧
      (∃ final, GoesOn sources last final ∧ final.run.coordinator = .exited) ∧
      (last.run.state = .completed → last.run.pops = 1 + referenceSum (answeredModules last.answers)) := by
  have limited := ModuleSources.limited_of_sum finite
  have counted := counted_of_play? played
  obtain ⟨_, same⟩ := sound_of_play? played
  refine ⟨?_, ?_, ?_, (underway_of_play? limited played).exits, fun completed =>
    (counted.tally.completed completed).1⟩
  · -- A round that has not taken its batch yet is the only one that may not be paid for.
    have lead := last.run.coordinator.lead_le_one
    have paid := counted.paid
    unfold Run.RoundsPaid at paid
    omega
  · have seeded : last.run.seed = seed := same.seed
    subst seeded
    exact counted.sound.pops_le counted.covered finite
  · -- The steps are bounded by the duty before the first move.
    have first := @underway_of_play? sources _ _ _ signals token seed limit [] limited rfl
    have bounded := first.sound.coordinator_steps_le first.limit first.limited played
    simpa [start, Run.new, Run.duty, Run.workersWork, Run.outcomesWork, CoordinatorStage.work] using bounded

/-- Two modules that refer to each other, one of them in two spellings, are found in three rounds, in which the queue is
popped four times. -/
theorem two_modules_in_three_rounds :
    let sources : ModuleSources :=
      .ofGraph [(⟨['a']⟩, [⟨['b']⟩, ⟨['b', '/']⟩]), (⟨['b']⟩, [⟨['a']⟩])] fun _ => .ok none
    ∃ last, (start ⟨[false]⟩ ⟨0, none⟩ ⟨['a']⟩ 2).play? sources twoBatches = some last ∧
      {path | sources.references.Reaches ⟨['a']⟩ path}.Finite ∧ last.run.state = .completed ∧
      last.run.rounds = 3 ∧ last.run.pops = 4 ∧ last.run.rounds ≤ last.run.pops + 1 ∧
      last.run.pops = 1 + referenceSum (answeredModules last.answers) := by
  intro sources
  have ran : ((start ⟨[false]⟩ ⟨0, none⟩ ⟨['a']⟩ 2).play? sources twoBatches).any (fun last =>
      last.run.state = .completed ∧ last.run.rounds = 3 ∧ last.run.pops = 4) = true := by
    decide +kernel
  obtain ⟨last, played, facts⟩ := (Option.any_eq_true ..).mp ran
  obtain ⟨completed, rounds, pops⟩ := of_decide_eq_true facts
  obtain ⟨sound, same⟩ := sound_of_play? played
  have finite := sound.finite_of_completed (ModuleSources.ofGraph_byPath _ _) completed
  rw [show last.run.seed = ⟨['a']⟩ from same.seed] at finite
  have counted := rounds_come_to_an_end finite played
  exact ⟨last, played, finite, completed, rounds, pops, counted.1, counted.2.2.2.2 completed⟩

end History

end ModuleScope
