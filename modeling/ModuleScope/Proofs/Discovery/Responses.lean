import ModuleScope.Proofs.Discovery.Progress

/-! Every call can be answered, whatever the seed leads to, and the one schedule answers it: the others need so many
steps only until they have something to tell the consumer. -/

namespace ModuleScope

/-- The toil that is left in the stage of the coordinator while so many paths may still be handed to workers. -/
def CoordinatorStage.toil (paths : Nat) : CoordinatorStage → Nat
  -- Once a batch has gone wrong, or a module is to be sent, the queue does not matter.
  | .unstarted | .exited => 0
  | .announcing _ => 1
  | .collecting .goOn => 17 * paths + 9
  | .collecting _ => 2
  | .sending _ => 3
  | .weighing _ => 17 * paths + 11
  | .accepting _ => 17 * paths + 10
  | .closing => 17 * paths + 8
  | .closingStop => 17 * paths + 7
  | .checking => 17 * paths + 6
  | .checkingStop => 17 * paths + 5
  | .dispatching => 17 * paths + 4

/-- The consumer waits for others. -/
def ConsumerStage.waits : ConsumerStage → Bool
  | .receiving | .joining _ => true
  | .resting | .checking => false

namespace Run

/-- How many workers have yet to ask for a permit. -/
def arrivals (run : Run) : Nat := run.workers.countP fun worker => worker.stage = .arriving

/-- The toil that is left until the consumer is told of something, at most. -/
def toil (run : Run) : Nat :=
  -- Asking for a permit counts, as nobody asks for one in vain.
  run.coordinator.toil (run.queue.length + run.references.length) + workersWork 0 run.workers + run.arrivals
    + 3 * run.results.length

variable {sources : ModuleSources} {signals signals' : Signals} {run run' : Run}

/-- Handing out a batch is paid for by the paths that are taken from the queue. -/
theorem toil_dispatched (stage : run.coordinator = .dispatching) (fresh : run.batch ≠ [])
    (none : run.workers = []) :
    toil
        { run with
          queue := run.queue.drop run.limit
          seen := run.batch.reverse ++ run.seen
          pops := run.pops + (run.queue.take run.limit).length
          workers := run.batch.map fun path => ⟨path, .arriving⟩
          references := []
          coordinator := .collecting .goOn } < toil run := by
  -- No worker is given a path that was not taken from the queue.
  have some : 0 < run.batch.length := List.length_pos_iff.mpr fresh
  have taken : run.batch.length ≤ (run.queue.take run.limit).length := (selectUnseen_sublist _ _).length_le
  simp only [List.length_take] at taken
  have arriving : (run.batch.map fun path => (⟨path, .arriving⟩ : Worker)).countP (fun worker =>
      worker.stage = .arriving) = run.batch.length := by simp [List.countP_map, Function.comp_def]
  simp only [toil, arrivals, stage, CoordinatorStage.toil, workersWork_started, arriving, none, workersWork,
    List.countP_nil, List.length_drop, List.length_nil]
  omega

/-- Every step of the coordinator is toil, unless the consumer is told of something. -/
theorem toil_coordinator (moved : CoordinatorMoved signals run signals' run') (orderly : run.Orderly)
    (limit : 0 < run.limit) :
    run'.events ≠ [] ∧ run.listening = true ∨ run'.events = run.events ∧ run'.toil < run.toil := by
  cases moved with
  -- The consumer is told of a module, or of the end.
  | sent module _ heard _ => exact Or.inl ⟨by simp, heard⟩
  | announced event _ heard _ => exact Or.inl ⟨by simp, heard⟩
  | dispatched stage fresh =>
    exact Or.inr ⟨rfl, toil_dispatched stage fresh (orderly.emptyHanded (by rw [stage]; rfl)).1⟩
  | roundCancelled stage _ | roundStarted stage _ | roundStopped stage _ | roundOpen stage _
  | weighedCancelled _ stage _
  | weighed _ stage _ | accepted _ stage | refused _ stage | abandoned _ stage _ | closedCancelled stage _
  | closed stage _ | closedStopped stage _ | unheard _ stage _ =>
    refine Or.inr ⟨rfl, ?_⟩
    simp only [toil, arrivals, stage, CoordinatorStage.toil]
    omega
  | drained stage _ _ =>
    refine Or.inr ⟨rfl, ?_⟩
    simp only [toil, arrivals, stage, CoordinatorStage.toil]
    omega
  | skipped stage _ more =>
    -- At least one path has left the queue.
    have left : 0 < (run.queue.drop run.limit).length := List.length_pos_iff.mpr more
    simp only [List.length_drop] at left
    refine Or.inr ⟨rfl, ?_⟩
    simp only [toil, arrivals, stage, CoordinatorStage.toil, List.length_drop]
    omega
  | taken result rest stage results =>
    -- A result is taken out of the batch, and that counts for more than weighing it.
    refine Or.inr ⟨rfl, ?_⟩
    simp only [toil, arrivals, stage, results, CoordinatorStage.toil, List.length_cons]
    omega
  | passedOver outcome result rest stage _ results =>
    refine Or.inr ⟨rfl, ?_⟩
    simp only [toil, arrivals, results, List.length_cons]
    omega
  | batchEnded outcome stage results _ =>
    refine Or.inr ⟨rfl, ?_⟩
    cases outcome <;>
      simp only [toil, arrivals, stage, afterBatch, CoordinatorStage.toil, workersWork, List.countP_nil] <;> omega
  | queued stage _ =>
    -- The references lengthen the queue, but they had been counted.
    refine Or.inr ⟨rfl, ?_⟩
    simp only [toil, arrivals, stage, CoordinatorStage.toil, List.length_append, List.length_nil]
    omega

/-- Every step of a worker is toil, unless it waits for a permit while there is none. -/
theorem toil_worker {index : Nat} (stepped : run.workerStep sources signals index = some run')
    (free : ∀ path, run.workers[index]? = some ⟨path, .waiting⟩ → ∃ gate, run.gate.take? = some gate) :
    run'.toil < run.toil := by
  obtain ⟨⟨path, stage⟩, found, stepped⟩ := Option.bind_eq_some_iff.mp stepped
  obtain ⟨front, back, workers, changed⟩ := split_of_getElem? found
  simp only [setStage, changed] at stepped
  -- Only the stage of one worker changes, and reading brings one result.
  have before : workersWork 0 run.workers = workersWork 0 front + (stage.work 0 + workersWork 0 back) := by
    rw [workers, workersWork_append, workersWork]
  have count (next : WorkerStage) : (front ++ ⟨path, next⟩ :: back).countP (fun worker => worker.stage = .arriving) =
      front.countP (fun worker => worker.stage = .arriving) + back.countP (fun worker => worker.stage = .arriving) +
        if next = .arriving then 1 else 0 := by
    simp only [List.countP_append, List.countP_cons, decide_eq_true_eq]
    omega
  rw [toil, toil, arrivals, arrivals, before, workers, count]
  cases stage with
  | gone => cases stepped
  | arriving =>
    dsimp only at stepped
    split at stepped <;> cases stepped <;>
      simp only [count, workersWork_append, workersWork, WorkerStage.work, reduceCtorEq, if_true, if_false] <;> omega
  | waiting =>
    -- It gets a permit, as there is one.
    obtain ⟨gate, left⟩ := free path found
    simp only [left, Option.some.injEq] at stepped
    subst stepped
    simp only [count, workersWork_append, workersWork, WorkerStage.work, reduceCtorEq, if_false]
    omega
  | admitted =>
    dsimp only at stepped
    split at stepped <;> cases stepped <;>
      simp only [count, workersWork_append, workersWork, WorkerStage.work, reduceCtorEq, if_false] <;> omega
  | reading =>
    -- The result that it brings counts less than what it had to do.
    cases stepped
    simp only [count, workersWork_append, workersWork, WorkerStage.work, List.length_append, List.length_singleton,
      reduceCtorEq, if_false]
    omega
  | leaving =>
    cases stepped
    simp only [count, workersWork_append, workersWork, WorkerStage.work, reduceCtorEq, if_false]
    omega

/-- A step that answers a call leaves the consumer without one. -/
theorem resting_of_step {actor : Actor} {answer : Option ModuleOutcome}
    (stepped : run.step sources actor signals = some ((signals', run'), some answer)) : run'.consumer = .resting := by
  cases actor with
  | coordinator =>
    obtain ⟨_, _, same⟩ := Option.map_eq_some_iff.mp stepped
    cases same
  | worker index =>
    obtain ⟨_, _, same⟩ := Option.map_eq_some_iff.mp stepped
    cases same
  | consumer =>
    -- Only the consumer answers, and it rests when it does.
    generalize found : some answer = answer? at stepped
    cases consumerStep_moved stepped <;> cases found <;> rfl

/-- The schedule goes on after a step that answers nothing. -/
theorem drive_of_silent (stepped : run.step sources (run.nextActor signals) signals = some ((signals', run'), none)) :
    run.drive sources signals = run'.drive sources signals' := by
  unfold drive
  rw [goUntil_eq]
  simp only [goOn, stepped]

/-- The schedule ends with a step that answers the call. -/
theorem drive_of_answer {answer : Option ModuleOutcome}
    (stepped : run.step sources (run.nextActor signals) signals = some ((signals', run'), some answer)) :
    run.drive sources signals = (answer, signals', run') := by
  unfold drive
  rw [goUntil_eq]
  simp only [goOn, stepped]

/-- The answer to a call decides whether another call follows. -/
theorem drainFrom_of_next {found : List FoundModule} {answer : Option ModuleOutcome}
    (answered : run.next sources signals = (answer, signals', run')) :
    run.drainFrom sources found signals =
      match answer with
      | some (.ok module) => run'.drainFrom sources (module :: found) signals'
      | some (.error error) => ⟨found.reverse, some error, signals', run'⟩
      | none => ⟨found.reverse, none, signals', run'⟩ := by
  unfold drainFrom
  rw [goUntil_eq]
  simp only [askOn, answered]
  rcases answer with _ | error | module <;> rfl

end Run

namespace History

variable {sources : ModuleSources} {history before after last : History}

/-- Those who take part, but nobody else, lead from the one history to the other. -/
def Acts (sources : ModuleSources) (before after : History) : Prop :=
  ∃ actors : List Run.Actor, before.play? sources (actors.map .act) = some after

/-- No step is needed to stay. -/
theorem Acts.refl (history : History) : Acts sources history history := ⟨[], rfl⟩

/-- Steps can be followed by others. -/
theorem Acts.trans {middle : History} (first : Acts sources before middle) (second : Acts sources middle after) :
    Acts sources before after := by
  obtain ⟨actors, played⟩ := first
  obtain ⟨actors', played'⟩ := second
  refine ⟨actors ++ actors', ?_⟩
  rw [List.map_append, play?_append, played]
  exact played'

/-- A single step is enough. -/
theorem Acts.single {actor : Run.Actor} (moved : before.move? sources (.act actor) = some after) :
    Acts sources before after := ⟨[actor], by simp [play?, moved]⟩

/-- A step that answers nothing changes the signals and the run only. -/
theorem Acts.of_silent {actor : Run.Actor} {signals : Signals} {run : Run}
    (stepped : before.run.step sources actor before.signals = some ((signals, run), none)) :
    Acts sources before { before with signals, run } :=
  .single (show before.move? sources (.act actor) = _ by simp [move?, stepped])

/-- Nobody cancels a token meanwhile. -/
theorem Acts.goesOn (acts : Acts sources before after) : GoesOn sources before after := by
  obtain ⟨actors, played⟩ := acts
  exact ⟨actors.map .act, by simp, played⟩

/-- Steps keep a history steady. -/
theorem Acts.steady (acts : Acts sources before after) (steady : before.Steady sources) : after.Steady sources :=
  acts.goesOn.steady steady

/-- The consumer takes no part in what leads from the one history to the other. -/
structure Aside (before after : History) : Prop where
  /-- It is where it was. -/
  consumer : after.run.consumer = before.run.consumer
  /-- It sees the run where it was. -/
  state : after.run.state = before.run.state
  /-- It listens if it did so before. -/
  listening : after.run.listening = before.run.listening
  /-- It has been answered nothing else. -/
  answers : after.answers = before.answers

/-- The consumer takes no part in what happens aside and aside again. -/
theorem Aside.trans {middle : History} (first : before.Aside middle) (second : middle.Aside after) :
    before.Aside after where
  consumer := second.consumer.trans first.consumer
  state := second.state.trans first.state
  listening := second.listening.trans first.listening
  answers := second.answers.trans first.answers

/-- A step of a worker takes place aside, and it brings no event. -/
theorem aside_worker (before : History) {signals : Signals} {run : Run}
    (moved : Run.WorkerMoved sources signals before.run run) :
    before.Aside { before with run } ∧ run.events = before.run.events := by
  cases moved <;> exact ⟨⟨rfl, rfl, rfl, rfl⟩, rfl⟩

/-- So does a step of the coordinator. -/
theorem aside_coordinator (before : History) {signals signals' : Signals} {run : Run}
    (moved : Run.CoordinatorMoved signals before.run signals' run) :
    before.Aside { before with signals := signals', run } := by
  cases moved <;> exact ⟨rfl, rfl, rfl, rfl⟩

/-- Those who take part go on as the schedule says, without an answer to the call. -/
structure Leads (sources : ModuleSources) (before after : History) : Prop where
  /-- They lead from the one history to the other. -/
  acts : Acts sources before after
  /-- Nothing is answered meanwhile. -/
  answers : after.answers = before.answers
  /-- The schedule comes to the same from both. -/
  driven : before.run.drive sources before.signals = after.run.drive sources after.signals

/-- Going on twice as the schedule says is going on as it says. -/
theorem Leads.trans {middle : History} (first : Leads sources before middle) (second : Leads sources middle after) :
    Leads sources before after where
  acts := first.acts.trans second.acts
  answers := second.answers.trans first.answers
  driven := first.driven.trans second.driven

/-- The one whose turn it is goes on as the schedule says. -/
theorem Leads.single {signals : Signals} {run : Run}
    (stepped : before.run.step sources (before.run.nextActor before.signals) before.signals =
      some ((signals, run), none)) : Leads sources before { before with signals, run } where
  acts := .of_silent stepped
  answers := rfl
  driven := Run.drive_of_silent stepped

/-- The others go on in their turns, and the consumer takes no part. -/
structure Turns (sources : ModuleSources) (before after : History) : Prop where
  /-- They lead from the one history to the other. -/
  acts : Acts sources before after
  /-- The consumer takes no part. -/
  aside : before.Aside after
  /-- If the consumer waits for them, it is as the schedule says. -/
  leads : before.run.consumer.waits = true → Leads sources before after

/-- No turn is needed to stay. -/
theorem Turns.refl (history : History) : Turns sources history history :=
  ⟨.refl history, ⟨rfl, rfl, rfl, rfl⟩, fun _ => ⟨.refl history, rfl, rfl⟩⟩

/-- Turns can be followed by others. -/
theorem Turns.trans {middle : History} (first : Turns sources before middle) (second : Turns sources middle after) :
    Turns sources before after where
  acts := first.acts.trans second.acts
  aside := first.aside.trans second.aside
  leads waits := (first.leads waits).trans (second.leads (first.aside.consumer ▸ waits))

/-- A single turn is enough, if the consumer is not ready when it waits. -/
theorem Turns.single {signals : Signals} {run : Run}
    (stepped : before.run.step sources (before.run.nextOther before.signals) before.signals =
      some ((signals, run), none))
    (aside : before.Aside { before with signals, run })
    (unready : before.run.consumer.waits = true → before.run.isConsumerReady = false) :
    Turns sources before { before with signals, run } where
  acts := .of_silent stepped
  aside := aside
  leads waits := .single (by simpa [Run.nextActor, unready waits] using stepped)

/-- A consumer that waits is not ready before it is told of something or the coordinator leaves. -/
theorem Steady.unready (steady : history.Steady sources) (there : history.run.coordinator ≠ .exited)
    (room : history.run.listening = true → history.run.events = []) (waits : history.run.consumer.waits = true) :
    history.run.isConsumerReady = false := by
  have remains : history.run.hasExited = false := by
    unfold Run.hasExited
    split
    · exact absurd ‹_› there
    · rfl
  cases stage : history.run.consumer with
  | resting | checking =>
    rw [stage] at waits
    cases waits
  | receiving =>
    -- Events are heard as long as the consumer waits for them.
    have heard := steady.sound.orderly.heard (steady.sound.orderly.asks (Or.inr stage))
    simp [Run.isConsumerReady, stage, room heard, remains]
  | joining answer => simp [Run.isConsumerReady, stage, remains]

/-- While the consumer waits, the next of the others gets on with the toil that is left, or the consumer is told of
something. -/
theorem Steady.turn (steady : history.Steady sources) (started : history.run.state ≠ .idle)
    (there : history.run.coordinator ≠ .exited) (room : history.run.listening = true → history.run.events = []) :
    ∃ after, Turns sources history after ∧
      (after.run.events ≠ [] ∧ history.run.listening = true ∨
        after.run.events = history.run.events ∧ after.run.toil < history.run.toil) := by
  have unready := steady.unready there room
  -- The coordinator gets on, or it waits for a worker that does.
  cases stepped : history.run.coordinatorStep history.signals with
  | some result =>
    obtain ⟨signals, run⟩ := result
    have inside := Run.coordinatorStep_moved stepped
    have turn : history.run.step sources (history.run.nextOther history.signals) history.signals =
        some ((signals, run), none) := by
      simp [Run.nextOther, Run.step, stepped]
    exact ⟨_, .single turn (aside_coordinator history inside) unready,
      Run.toil_coordinator inside steady.sound.orderly steady.limit⟩
  | none =>
    have roomy : history.run.listening = true → history.run.events.length < history.run.limit := by
      intro heard
      rw [room heard]
      exact steady.limit
    obtain ⟨worker, member, present⟩ := Run.collecting_of_waits (steady.active started) there roomy stepped
    obtain ⟨⟨path, stage⟩, found, present', free⟩ := steady.held.nextWorker member present
    obtain ⟨run, worked⟩ := @Run.workerStep_isSome sources history.signals _ _ _ found present'
    have turn : history.run.step sources (history.run.nextOther history.signals) history.signals =
        some ((history.signals, run), none) := by
      simp [Run.nextOther, Run.step, stepped, worked]
    -- The worker does not wait for a permit in vain.
    have less : run.toil < history.run.toil := by
      refine Run.toil_worker worked fun path' waiting => free ?_
      rw [found, Option.some.injEq, Worker.mk.injEq] at waiting
      rw [waiting.2]
      rfl
    have aside := aside_worker history (Run.workerStep_moved worked)
    exact ⟨_, .single turn aside.1 unready, Or.inr ⟨aside.2, less⟩⟩

/-- While the consumer waits, the others go on in their turns until it is told of something, or the coordinator
leaves. -/
theorem Steady.tells (steady : history.Steady sources) (started : history.run.state ≠ .idle)
    (room : history.run.listening = true → history.run.events = []) :
    ∃ after, Turns sources history after ∧
      (after.run.events ≠ [] ∧ history.run.listening = true ∨
        after.run.events = history.run.events ∧ after.run.coordinator = .exited) := by
  -- The toil that is left gets less each time.
  induction left : history.run.toil using Nat.strongRecOn generalizing history with
  | ind _ ih =>
    subst left
    by_cases gone : history.run.coordinator = .exited
    · exact ⟨history, .refl history, Or.inr ⟨rfl, gone⟩⟩
    · obtain ⟨next, turns, told | ⟨same, less⟩⟩ := steady.turn started gone room
      · exact ⟨next, turns, Or.inl told⟩
      · have later := ih _ less (turns.acts.steady steady) (turns.aside.state ▸ started)
          (by rw [turns.aside.listening, same]; exact room) rfl
        rw [turns.aside.listening, same] at later
        obtain ⟨after, turns', rest⟩ := later
        exact ⟨after, turns.trans turns', rest⟩

/-- The schedule comes to an answer of the call that is under way. -/
def Answerable (sources : ModuleSources) (history : History) : Prop :=
  ∃ after answer, Acts sources history after ∧ after.run.consumer = .resting ∧
    after.answers = history.answers ++ [answer] ∧
    history.run.drive sources history.signals = (answer, after.signals, after.run)

/-- What is answered after some steps of the schedule is answered. -/
theorem Answerable.of_leads (answerable : after.Answerable sources) (leads : Leads sources before after) :
    before.Answerable sources := by
  obtain ⟨last, answer, acts, resting, answers, driven⟩ := answerable
  exact ⟨last, answer, leads.acts.trans acts, resting, leads.answers ▸ answers, leads.driven.trans driven⟩

/-- A consumer that is ready has the next turn. -/
theorem step_of_ready {result : Run.ConsumerResult} (ready : history.run.isConsumerReady = true)
    (stepped : history.run.consumerStep history.signals = some result) :
    history.run.step sources (history.run.nextActor history.signals) history.signals = some result := by
  rw [Run.nextActor, if_pos ready]
  exact stepped

/-- The consumer gives the answer when it is its turn to do so. -/
theorem Answerable.of_step {signals : Signals} {run : Run} {answer : Option ModuleOutcome}
    (ready : history.run.isConsumerReady = true)
    (stepped : history.run.consumerStep history.signals = some ((signals, run), some answer)) :
    history.Answerable sources := by
  have turn := @step_of_ready sources history _ ready stepped
  have moved : history.move? sources (.act (history.run.nextActor history.signals)) =
      some { history with signals, run, answers := history.answers ++ [answer] } := by
    simp [move?, turn]
  exact ⟨_, answer, .single moved, Run.resting_of_step turn, rfl, Run.drive_of_answer turn⟩

/-- A call is answered when its answer is known. -/
theorem Steady.answerable_joining {answer : Option ModuleOutcome} (steady : history.Steady sources)
    (stage : history.run.consumer = .joining answer) : history.Answerable sources := by
  have ended := (steady.sound.orderly.joins answer stage).1
  -- Nobody hears of events any more, so that the coordinator is sure to leave.
  have deaf : history.run.listening = false := by simp [steady.sound.orderly.listens, ended]
  have started : history.run.state ≠ .idle := by
    rintro idle
    simp [idle, RunState.hasEnded] at ended
  obtain ⟨after, turns, ⟨_, heard⟩ | ⟨_, gone⟩⟩ := steady.tells started (by simp [deaf])
  · cases deaf.symm.trans heard
  · -- The coordinator has gone, and the answer is given.
    have stage' := turns.aside.consumer.trans stage
    have stepped : after.run.consumerStep after.signals =
        some ((after.signals, { after.run with consumer := .resting }), some answer) := by
      simp [Run.consumerStep, stage', gone]
    refine Answerable.of_leads ?_ (turns.leads (by rw [stage]; rfl))
    exact .of_step (by simp [Run.isConsumerReady, Run.hasExited, stage', gone]) stepped

/-- A call is answered when the run has just ended for the consumer. -/
theorem Steady.answerable_finish (steady : history.Steady sources) (state : RunState) (answer : Option ModuleOutcome)
    (ready : history.run.isConsumerReady = true)
    (stepped : history.run.consumerStep history.signals =
      some (history.run.finish history.signals state answer, none)) : history.Answerable sources := by
  have leads : Leads sources history _ := .single (step_of_ready ready stepped)
  exact ((leads.acts.steady steady).answerable_joining rfl).of_leads leads

/-- A call is answered when the consumer waits for an event. -/
theorem Steady.answerable_receiving (steady : history.Steady sources) (stage : history.run.consumer = .receiving) :
    history.Answerable sources := by
  have draining := steady.sound.orderly.asks (Or.inr stage)
  -- First there has to be an event, unless the coordinator has gone.
  have told : ∃ after, Turns sources history after ∧
      (after.run.events ≠ [] ∨ after.run.events = [] ∧ after.run.coordinator = .exited) := by
    by_cases empty : history.run.events = []
    · obtain ⟨after, turns, ⟨some, _⟩ | ⟨same, gone⟩⟩ := steady.tells (by simp [draining]) fun _ => empty
      · exact ⟨after, turns, Or.inl some⟩
      · exact ⟨after, turns, Or.inr ⟨same.trans empty, gone⟩⟩
    · exact ⟨history, .refl history, Or.inl empty⟩
  obtain ⟨after, turns, told⟩ := told
  have stage' := turns.aside.consumer.trans stage
  have later := turns.acts.steady steady
  refine Answerable.of_leads ?_ (turns.leads (by rw [stage]; rfl))
  -- A module is answered at once, and all else ends the run.
  cases events : after.run.events with
  | nil =>
    have gone : after.run.coordinator = .exited := by simpa [events] using told
    exact later.answerable_finish .faulted none (by simp [Run.isConsumerReady, Run.hasExited, stage', gone])
      (by simp [Run.consumerStep, stage', events, gone])
  | cons event rest =>
    have ready : after.run.isConsumerReady = true := by simp [Run.isConsumerReady, stage', events]
    cases event with
    | found module =>
      have stepped : after.run.consumerStep after.signals =
          some ((after.signals, { after.run with events := rest, consumer := .resting }),
            some (some (.ok module))) := by
        simp [Run.consumerStep, stage', events]
      exact .of_step ready stepped
    | failed error =>
      exact later.answerable_finish .faulted (some (.error error)) ready (by simp [Run.consumerStep, stage', events])
    | finished state => exact later.answerable_finish state none ready (by simp [Run.consumerStep, stage', events])

/-- Whatever has happened, the schedule comes to an answer of the call that is under way. -/
theorem Steady.answerable (steady : history.Steady sources) (asked : history.run.consumer ≠ .resting) :
    history.Answerable sources := by
  cases stage : history.run.consumer with
  | resting => exact absurd stage asked
  | joining answer => exact steady.answerable_joining stage
  | receiving => exact steady.answerable_receiving stage
  | checking =>
    -- It looks at the token, and then it ends the run or waits for an event.
    have ready : history.run.isConsumerReady = true := by simp [Run.isConsumerReady, stage]
    cases cancelled : history.signals.isCancelled history.run.token with
    | true => exact steady.answerable_finish .cancelled none ready (by simp [Run.consumerStep, stage, cancelled])
    | false =>
      have leads : Leads sources history { history with run := { history.run with consumer := .receiving } } :=
        .single (step_of_ready ready (by simp [Run.consumerStep, stage, cancelled]))
      exact ((leads.acts.steady steady).answerable_receiving rfl).of_leads leads

/-- A call of a consumer that rests is answered, and then it rests again. -/
theorem Steady.next_acts (steady : history.Steady sources) (resting : history.run.consumer = .resting) :
    ∃ after answer, Acts sources { history with run := history.run.call } after ∧ after.run.consumer = .resting ∧
      after.answers = history.answers ++ [answer] ∧
      history.run.next sources history.signals = (answer, after.signals, after.run) :=
  (steady.step (move?_moved (move?_call resting))).answerable history.run.call_asks

/-- Whatever has happened, the run can go on to one more answer. -/
theorem Steady.one_more (steady : history.Steady sources) :
    ∃ later answer, GoesOn sources history later ∧ later.run.consumer = .resting ∧
      later.answers = history.answers ++ [answer] := by
  by_cases resting : history.run.consumer = .resting
  · -- Between two calls another one is made first.
    obtain ⟨later, answer, acts, done, answers, _⟩ := steady.next_acts resting
    have called := @move?_call sources history resting
    exact ⟨later, answer, (GoesOn.single (by simp) called).trans acts.goesOn, done, answers⟩
  · obtain ⟨later, answer, acts, done, answers, _⟩ := steady.answerable resting
    exact ⟨later, answer, acts.goesOn, done, answers⟩

/-- The run can go on to any number of answers. -/
theorem Steady.many_more (steady : history.Steady sources) (count : Nat) :
    ∃ later, GoesOn sources history later ∧ later.run.consumer = .resting ∧ count ≤ later.answers.length := by
  induction count with
  | zero =>
    obtain ⟨later, _, goesOn, resting, _⟩ := steady.one_more
    exact ⟨later, goesOn, resting, Nat.zero_le _⟩
  | succ count ih =>
    obtain ⟨middle, goesOn, _, many⟩ := ih
    obtain ⟨later, answer, goesOn', resting, answers⟩ := (goesOn.steady steady).one_more
    refine ⟨later, goesOn.trans goesOn', resting, ?_⟩
    rw [answers, List.length_append]
    exact Nat.add_le_add_right many 1

end History

end ModuleScope
