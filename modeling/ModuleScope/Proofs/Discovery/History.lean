import ModuleScope.Proofs.Discovery.Selection

/-! Histories of a run: its parts, its consumer and whoever may cancel tokens move in any order. -/

namespace ModuleScope

/-- A run among all signals, and what its calls have been answered so far. -/
structure History where
  /-- All signals. -/
  signals : Signals
  /-- The run. -/
  run : Run
  /-- The answers to its calls, first answer first. -/
  answers : List (Option ModuleOutcome) := []
  /-- Whether the caller's token was cancelled between the coordinator's looks at it and at the stop token. -/
  straddled : Bool := false

/-- What can happen next. -/
inductive Move
  /-- One of those who take part takes a step. -/
  | act (actor : Run.Actor)
  /-- The consumer asks for the next module. -/
  | call
  /-- Somebody cancels a token; nobody but the run itself has its stop token. -/
  | cancel (token : CancelToken)

namespace CoordinatorStage

/-- The coordinator has looked at the caller's token and is about to look at the stop token. -/
def isBetweenLooks : CoordinatorStage → Bool
  | .checkingStop | .closingStop => true
  | _ => false

end CoordinatorStage

namespace History

/-- A run that has been made and not asked for anything. -/
def start (signals : Signals) (token : CancelToken) (seed : Path) (limit : Nat) : History :=
  -- Making the run makes its stop token.
  { signals := (Run.new signals token seed limit).2, run := (Run.new signals token seed limit).1 }

/-- The history after a move, if the move is possible. -/
def move? (sources : ModuleSources) (history : History) : Move → Option History
  | .act actor =>
    (history.run.step sources actor history.signals).map fun after =>
      { history with
        signals := after.1.1, run := after.1.2, answers := history.answers ++ after.2.toList }
  | .call =>
    -- There is one consumer, so that one call ends before the next.
    match history.run.consumer with
    | .resting => some { history with run := history.run.call }
    | _ => none
  | .cancel token =>
    if token.own = history.run.stop.own then none
    else
      some { history with
        signals := history.signals.cancel token
        straddled := history.straddled ||
          (token.own = history.run.token.own && history.run.coordinator.isBetweenLooks) }

/-- The history after several moves, if all of them are possible. -/
def play? (sources : ModuleSources) (history : History) : List Move → Option History
  | [] => some history
  | move :: rest => (history.move? sources move).bind fun next => next.play? sources rest

end History

namespace Run

/-- What a step of the coordinator does, and what it has seen when it does so. -/
inductive CoordinatorMoved (signals : Signals) (run : Run) : Signals → Run → Prop
  /-- A round starts in a cancelled run. -/
  | roundCancelled (stage : run.coordinator = .checking)
      (cancelled : signals.isCancelled run.token = true) :
      CoordinatorMoved signals run signals
        { run with rounds := run.rounds + 1, coordinator := .announcing (.finished .cancelled) }
  /-- A round starts. -/
  | roundStarted (stage : run.coordinator = .checking)
      (live : signals.isCancelled run.token = false) :
      CoordinatorMoved signals run signals
        { run with rounds := run.rounds + 1, coordinator := .checkingStop }
  /-- The run was stopped before a batch. -/
  | roundStopped (stage : run.coordinator = .checkingStop)
      (stopped : signals.isCancelled run.stop = true) :
      CoordinatorMoved signals run signals { run with coordinator := .exited }
  /-- A batch may be taken. -/
  | roundOpen (stage : run.coordinator = .checkingStop)
      (going : signals.isCancelled run.stop = false) :
      CoordinatorMoved signals run signals { run with coordinator := .dispatching }
  /-- A batch is handed to workers. -/
  | dispatched (stage : run.coordinator = .dispatching) (fresh : run.batch ≠ []) :
      CoordinatorMoved signals run signals
        { run with
          queue := run.queue.drop run.limit
          seen := run.batch.reverse ++ run.seen
          pops := run.pops + (run.queue.take run.limit).length
          workers := run.batch.map fun path => ⟨path, .arriving⟩
          references := []
          coordinator := .collecting .goOn }
  /-- Everything has been seen, and the queue is empty. -/
  | drained (stage : run.coordinator = .dispatching) (stale : run.batch = [])
      (empty : run.queue.drop run.limit = []) :
      CoordinatorMoved signals run signals
        { run with
          queue := []
          pops := run.pops + (run.queue.take run.limit).length
          coordinator := .announcing (.finished .completed) }
  /-- Everything that was taken from the queue has been seen, and there is more. -/
  | skipped (stage : run.coordinator = .dispatching) (stale : run.batch = [])
      (more : run.queue.drop run.limit ≠ []) :
      CoordinatorMoved signals run signals
        { run with
          queue := run.queue.drop run.limit
          pops := run.pops + (run.queue.take run.limit).length
          coordinator := .checking }
  /-- A result is taken. -/
  | taken (result : ModuleOutcome) (rest : List ModuleOutcome)
      (stage : run.coordinator = .collecting .goOn) (results : run.results = result :: rest) :
      CoordinatorMoved signals run signals
        { run with results := rest, coordinator := .weighing result }
  /-- A result is passed over. -/
  | passedOver (outcome : BatchStatus) (result : ModuleOutcome) (rest : List ModuleOutcome)
      (stage : run.coordinator = .collecting outcome) (wrong : outcome ≠ .goOn)
      (results : run.results = result :: rest) :
      CoordinatorMoved signals run signals { run with results := rest }
  /-- All workers of a batch are gone. -/
  | batchEnded (outcome : BatchStatus) (stage : run.coordinator = .collecting outcome)
      (results : run.results = []) (idle : run.isIdle = true) :
      CoordinatorMoved signals run signals
        { run with workers := [], coordinator := afterBatch outcome }
  /-- The run was cancelled when a result came. -/
  | weighedCancelled (result : ModuleOutcome) (stage : run.coordinator = .weighing result)
      (cancelled : signals.isCancelled run.token = true) :
      CoordinatorMoved signals run (signals.cancel run.stop)
        { run with coordinator := .collecting .cancelled }
  /-- A result counts. -/
  | weighed (result : ModuleOutcome) (stage : run.coordinator = .weighing result)
      (live : signals.isCancelled run.token = false) :
      CoordinatorMoved signals run signals { run with coordinator := .accepting result }
  /-- A module was found. -/
  | accepted (module : FoundModule) (stage : run.coordinator = .accepting (.ok module)) :
      CoordinatorMoved signals run signals
        { run with
          references := run.references ++ module.declared.references
          coordinator := .sending module }
  /-- A module could not be read. -/
  | refused (error : ModuleFailure) (stage : run.coordinator = .accepting (.error error)) :
      CoordinatorMoved signals run (signals.cancel run.stop)
        { run with coordinator := .collecting (.faulted error) }
  /-- Nobody takes the module. -/
  | abandoned (module : FoundModule) (stage : run.coordinator = .sending module)
      (deaf : run.listening = false) :
      CoordinatorMoved signals run (signals.cancel run.stop)
        { run with coordinator := .collecting .abandoned }
  /-- The consumer is told of a module. -/
  | sent (module : FoundModule) (stage : run.coordinator = .sending module)
      (heard : run.listening = true) (room : run.events.length < run.limit) :
      CoordinatorMoved signals run signals
        { run with events := run.events ++ [.found module], coordinator := .collecting .goOn }
  /-- The run was cancelled before the batch ended. -/
  | closedCancelled (stage : run.coordinator = .closing)
      (cancelled : signals.isCancelled run.token = true) :
      CoordinatorMoved signals run signals
        { run with coordinator := .announcing (.finished .cancelled) }
  /-- The batch may be closed. -/
  | closed (stage : run.coordinator = .closing) (live : signals.isCancelled run.token = false) :
      CoordinatorMoved signals run signals { run with coordinator := .closingStop }
  /-- The run was stopped before the batch ended. -/
  | closedStopped (stage : run.coordinator = .closingStop)
      (stopped : signals.isCancelled run.stop = true) :
      CoordinatorMoved signals run signals { run with coordinator := .exited }
  /-- The references of the batch join the queue. -/
  | queued (stage : run.coordinator = .closingStop)
      (going : signals.isCancelled run.stop = false) :
      CoordinatorMoved signals run signals
        { run with
          queue := run.queue ++ run.references, references := [], coordinator := .checking }
  /-- Nobody takes the last event. -/
  | unheard (event : RunEvent) (stage : run.coordinator = .announcing event)
      (deaf : run.listening = false) :
      CoordinatorMoved signals run signals { run with coordinator := .exited }
  /-- The consumer is told how the run ends. -/
  | announced (event : RunEvent) (stage : run.coordinator = .announcing event)
      (heard : run.listening = true) (room : run.events.length < run.limit) :
      CoordinatorMoved signals run signals
        { run with events := run.events ++ [event], coordinator := .exited }

/-- Taking a batch is one of the steps of the coordinator. -/
theorem dispatch_moved {signals : Signals} {run : Run} (stage : run.coordinator = .dispatching) :
    CoordinatorMoved signals run signals run.dispatch := by
  -- An empty batch leaves the paths that have been seen, the workers and the references as they are.
  by_cases stale : run.batch = []
  · -- Nothing is left to be read, or the rest of the queue is looked at next.
    by_cases empty : run.queue.drop run.limit = []
    · simpa [dispatch_eq, stale, empty] using CoordinatorMoved.drained stage stale empty
    · simpa [dispatch_eq, stale, empty] using CoordinatorMoved.skipped stage stale empty
  · simpa [dispatch_eq, stale] using CoordinatorMoved.dispatched stage stale

/-- The coordinator takes no other steps. -/
theorem coordinatorStep_moved {signals signals' : Signals} {run run' : Run}
    (stepped : run.coordinatorStep signals = some (signals', run')) :
    CoordinatorMoved signals run signals' run' := by
  -- Each stage looks at one thing at most before it goes on.
  unfold coordinatorStep at stepped
  dsimp only at stepped
  split at stepped
  · -- Before the first call and after its last step the coordinator does nothing.
    cases stepped
  · cases stepped
  · -- A round starts.
    rename_i stage
    split at stepped <;> cases stepped
    · rename_i cancelled
      exact .roundCancelled stage cancelled
    · rename_i live
      exact .roundStarted stage (by simpa using live)
  · -- Behind the look at the caller's token comes one at the stop token.
    rename_i stage
    split at stepped <;> cases stepped
    · rename_i stopped
      exact .roundStopped stage stopped
    · rename_i going
      exact .roundOpen stage (by simpa using going)
  · -- A batch is taken from the queue.
    rename_i stage
    cases stepped
    exact dispatch_moved stage
  · -- Results are taken while all is well, and passed over otherwise.
    rename_i outcome stage
    split at stepped
    · rename_i result rest results
      cases stepped
      exact .taken result rest stage results
    · rename_i result rest results wrong
      cases stepped
      exact .passedOver _ result rest stage wrong results
    · rename_i results
      split at stepped <;> cases stepped
      rename_i idle
      exact .batchEnded _ stage results idle
  · -- The caller's token is looked at again before a result counts.
    rename_i result stage
    split at stepped <;> cases stepped
    · rename_i cancelled
      exact .weighedCancelled result stage cancelled
    · rename_i live
      exact .weighed result stage (by simpa using live)
  · -- What counts is a module or an error.
    rename_i module stage
    cases stepped
    exact .accepted module stage
  · rename_i error stage
    cases stepped
    exact .refused error stage
  · -- A module is sent if somebody listens and there is room.
    rename_i module stage
    split at stepped
    · rename_i deaf
      cases stepped
      exact .abandoned module stage (by simpa using deaf)
    · rename_i heard
      split at stepped <;> cases stepped
      rename_i room
      exact .sent module stage (by simpa using heard) room
  · -- Both tokens are looked at after the batch as they were before it.
    rename_i stage
    split at stepped <;> cases stepped
    · rename_i cancelled
      exact .closedCancelled stage cancelled
    · rename_i live
      exact .closed stage (by simpa using live)
  · rename_i stage
    split at stepped <;> cases stepped
    · rename_i stopped
      exact .closedStopped stage stopped
    · rename_i going
      exact .queued stage (by simpa using going)
  · -- So is the event that ends the run.
    rename_i event stage
    split at stepped
    · rename_i deaf
      cases stepped
      exact .unheard event stage (by simpa using deaf)
    · rename_i heard
      split at stepped <;> cases stepped
      rename_i room
      exact .announced event stage (by simpa using heard) room

/-- What a step of a worker does, `front` and `back` being the other workers of its batch. -/
inductive WorkerMoved (sources : ModuleSources) (signals : Signals) (run : Run) : Run → Prop
  /-- The worker is told to stop before it asks for a permit. -/
  | turnedAway (front back : List Worker) (path : Path)
      (workers : run.workers = front ++ ⟨path, .arriving⟩ :: back)
      (stopped : signals.isCancelled run.stop = true) :
      WorkerMoved sources signals run { run with workers := front ++ ⟨path, .gone⟩ :: back }
  /-- The worker asks for a permit. -/
  | asked (front back : List Worker) (path : Path)
      (workers : run.workers = front ++ ⟨path, .arriving⟩ :: back)
      (going : signals.isCancelled run.stop = false) :
      WorkerMoved sources signals run { run with workers := front ++ ⟨path, .waiting⟩ :: back }
  /-- The worker gets a permit. -/
  | admitted (front back : List Worker) (path : Path) (gate : Gate)
      (workers : run.workers = front ++ ⟨path, .waiting⟩ :: back)
      (free : run.gate.take? = some gate) :
      WorkerMoved sources signals run
        { run with workers := front ++ ⟨path, .admitted⟩ :: back, gate }
  /-- The worker stops waiting to look whether it is to stop. -/
  | timedOut (front back : List Worker) (path : Path)
      (workers : run.workers = front ++ ⟨path, .waiting⟩ :: back) (full : run.gate.take? = none) :
      WorkerMoved sources signals run { run with workers := front ++ ⟨path, .arriving⟩ :: back }
  /-- The worker is told to stop before it reads. -/
  | calledOff (front back : List Worker) (path : Path)
      (workers : run.workers = front ++ ⟨path, .admitted⟩ :: back)
      (stopped : signals.isCancelled run.stop = true) :
      WorkerMoved sources signals run { run with workers := front ++ ⟨path, .leaving⟩ :: back }
  /-- The worker starts to read. -/
  | started (front back : List Worker) (path : Path)
      (workers : run.workers = front ++ ⟨path, .admitted⟩ :: back)
      (going : signals.isCancelled run.stop = false) :
      WorkerMoved sources signals run
        { run with
          workers := front ++ ⟨path, .reading⟩ :: back
          reads := path :: run.reads
          peak := max run.peak
            (readingCount { run with workers := front ++ ⟨path, .reading⟩ :: back }) }
  /-- The worker has read its module. -/
  | ended (front back : List Worker) (path : Path)
      (workers : run.workers = front ++ ⟨path, .reading⟩ :: back) :
      WorkerMoved sources signals run
        { run with
          workers := front ++ ⟨path, .leaving⟩ :: back
          results := run.results ++ [sources.describe path] }
  /-- The worker gives its permit back. -/
  | left (front back : List Worker) (path : Path)
      (workers : run.workers = front ++ ⟨path, .leaving⟩ :: back) :
      WorkerMoved sources signals run
        { run with workers := front ++ ⟨path, .gone⟩ :: back, gate := run.gate.release }

/-- An entry of a list stands between the others, and only it changes when another one is put in its place. -/
theorem split_of_getElem? {α : Type} {entries : List α} {index : Nat} {entry : α}
    (found : entries[index]? = some entry) :
    ∃ front back, entries = front ++ entry :: back ∧ ∀ other, entries.set index other = front ++ other :: back := by
  -- The others are the ones before and after its place.
  obtain ⟨inside, rfl⟩ := List.getElem?_eq_some_iff.mp found
  refine ⟨entries.take index, entries.drop (index + 1), ?_, fun other => ?_⟩
  · rw [← List.drop_eq_getElem_cons inside, List.take_append_drop]
  · exact List.set_eq_take_append_cons_drop.trans (if_pos inside)

/-- A worker takes no other steps. -/
theorem workerStep_moved {sources : ModuleSources} {signals : Signals} {run run' : Run} {index : Nat}
    (stepped : run.workerStep sources signals index = some run') :
    WorkerMoved sources signals run run' := by
  -- The step depends on the stage of the worker and on the gate or the stop token.
  obtain ⟨⟨path, stage⟩, found, stepped⟩ := Option.bind_eq_some_iff.mp stepped
  obtain ⟨front, back, workers, changed⟩ := split_of_getElem? found
  simp only [setStage, changed] at stepped
  cases stage with
  | arriving =>
    -- On arrival it looks at the stop token.
    dsimp only at stepped
    split at stepped <;> cases stepped
    · rename_i stopped
      exact .turnedAway front back path workers stopped
    · rename_i going
      exact .asked front back path workers (by simpa using going)
  | waiting =>
    -- At the gate it gets a permit or waits on.
    dsimp only at stepped
    split at stepped <;> cases stepped
    · rename_i gate free
      exact .admitted front back path gate workers free
    · rename_i full
      exact .timedOut front back path workers full
  | admitted =>
    -- With its permit it looks at the stop token once more.
    dsimp only at stepped
    split at stepped <;> cases stepped
    · rename_i stopped
      exact .calledOff front back path workers stopped
    · rename_i going
      exact .started front back path workers (by simpa using going)
  | reading =>
    -- What was read is delivered, whatever has happened meanwhile.
    cases stepped
    exact .ended front back path workers
  | leaving =>
    cases stepped
    exact .left front back path workers
  -- A worker that is gone does nothing more.
  | gone => cases stepped

/-- Workers touch nothing but themselves, the gate, the results and the counts of what is read. -/
theorem WorkerMoved.frame {sources : ModuleSources} {signals : Signals} {run run' : Run}
    (moved : WorkerMoved sources signals run run') :
    run' =
      { run with
        workers := run'.workers, gate := run'.gate, results := run'.results, reads := run'.reads
        peak := run'.peak } := by
  cases moved <;> rfl

/-- What a step of the consumer does, and the answer to the call that it ends. -/
inductive ConsumerMoved (signals : Signals) (run : Run) :
    Signals → Run → Option (Option ModuleOutcome) → Prop
  /-- The run is found cancelled. -/
  | cancelled (stage : run.consumer = .checking)
      (cancelled : signals.isCancelled run.token = true) :
      ConsumerMoved signals run (run.finish signals .cancelled none).1
        (run.finish signals .cancelled none).2 none
  /-- The consumer waits for an event. -/
  | waited (stage : run.consumer = .checking) (live : signals.isCancelled run.token = false) :
      ConsumerMoved signals run signals { run with consumer := .receiving } none
  /-- A module is received. -/
  | received (module : FoundModule) (rest : List RunEvent) (stage : run.consumer = .receiving)
      (events : run.events = .found module :: rest) :
      ConsumerMoved signals run signals { run with events := rest, consumer := .resting }
        (some (some (.ok module)))
  /-- An error is received. -/
  | failed (error : ModuleFailure) (rest : List RunEvent) (stage : run.consumer = .receiving)
      (events : run.events = .failed error :: rest) :
      ConsumerMoved signals run (run.finish signals .faulted (some (.error error))).1
        (run.finish signals .faulted (some (.error error))).2 none
  /-- The end is received. -/
  | finished (state : RunState) (rest : List RunEvent) (stage : run.consumer = .receiving)
      (events : run.events = .finished state :: rest) :
      ConsumerMoved signals run (run.finish signals state none).1
        (run.finish signals state none).2 none
  /-- The coordinator is gone, and there is no event. -/
  | deserted (stage : run.consumer = .receiving) (events : run.events = [])
      (gone : run.coordinator = .exited) :
      ConsumerMoved signals run (run.finish signals .faulted none).1
        (run.finish signals .faulted none).2 none
  /-- There is no event yet. -/
  | timedOut (stage : run.consumer = .receiving) (events : run.events = [])
      (there : run.coordinator ≠ .exited) :
      ConsumerMoved signals run signals { run with consumer := .checking } none
  /-- The coordinator is gone, and the call is answered. -/
  | answered (answer : Option ModuleOutcome) (stage : run.consumer = .joining answer)
      (gone : run.coordinator = .exited) :
      ConsumerMoved signals run signals { run with consumer := .resting } (some answer)

/-- The consumer takes no other steps. -/
theorem consumerStep_moved {signals signals' : Signals} {run run' : Run}
    {answer : Option (Option ModuleOutcome)}
    (stepped : run.consumerStep signals = some ((signals', run'), answer)) :
    ConsumerMoved signals run signals' run' answer := by
  -- Only a consumer that waits for an event looks at the events.
  unfold consumerStep at stepped
  split at stepped
  · cases stepped
  · -- It looks at its token before it waits.
    rename_i stage
    split at stepped <;> cases stepped
    · rename_i cancelled
      exact .cancelled stage cancelled
    · rename_i live
      exact .waited stage (by simpa using live)
  · -- It takes the first event; without one it looks whether the coordinator is still there.
    rename_i stage
    split at stepped
    · rename_i module rest events
      cases stepped
      exact .received module rest stage events
    · rename_i error rest events
      cases stepped
      exact .failed error rest stage events
    · rename_i state rest events
      cases stepped
      exact .finished state rest stage events
    · rename_i events
      split at stepped <;> cases stepped
      · -- A coordinator that is gone without a word is a fault.
        rename_i gone
        exact .deserted stage events gone
      · rename_i there
        exact .timedOut stage events there
  · -- An answer that ends the run waits for the coordinator to be gone.
    rename_i answer' stage
    split at stepped <;> cases stepped
    rename_i gone
    exact .answered answer' stage gone

end Run

/-- What a move does to a history. -/
inductive History.Moved (sources : ModuleSources) (history : History) : Move → History → Prop
  /-- The coordinator takes a step. -/
  | coordinator {signals : Signals} {run : Run}
      (moved : Run.CoordinatorMoved history.signals history.run signals run) :
      Moved sources history (.act .coordinator) { history with signals, run }
  /-- A worker takes a step. -/
  | worker {run : Run} (index : Nat)
      (moved : Run.WorkerMoved sources history.signals history.run run) :
      Moved sources history (.act (.worker index)) { history with run }
  /-- The consumer takes a step. -/
  | consumer {signals : Signals} {run : Run} {answer : Option (Option ModuleOutcome)}
      (moved : Run.ConsumerMoved history.signals history.run signals run answer) :
      Moved sources history (.act .consumer)
        { history with signals, run, answers := history.answers ++ answer.toList }
  /-- The consumer asks for the next module. -/
  | called (resting : history.run.consumer = .resting) :
      Moved sources history .call { history with run := history.run.call }
  /-- Somebody cancels a token that is not the stop token. -/
  | cancelled (token : CancelToken) (foreign : token.own ≠ history.run.stop.own) :
      Moved sources history (.cancel token)
        { history with
          signals := history.signals.cancel token
          straddled := history.straddled ||
            (token.own = history.run.token.own && history.run.coordinator.isBetweenLooks) }

/-- Nothing else can happen in one move. -/
theorem History.move?_moved {sources : ModuleSources} {before after : History} {move : Move}
    (moved : before.move? sources move = some after) : before.Moved sources move after := by
  -- A move is a step of one of those who take part, a call or a cancellation.
  cases move with
  | act actor =>
    -- The step tells what becomes of the signals, the run and the answers.
    obtain ⟨⟨⟨signals, run⟩, answer⟩, stepped, rfl⟩ := Option.map_eq_some_iff.mp moved
    cases actor with
    | coordinator =>
      obtain ⟨⟨signals, run⟩, took, same⟩ := Option.map_eq_some_iff.mp stepped
      cases same
      simpa using Moved.coordinator (Run.coordinatorStep_moved took)
    | worker index =>
      obtain ⟨run, took, same⟩ := Option.map_eq_some_iff.mp stepped
      cases same
      simpa using Moved.worker index (Run.workerStep_moved took)
    | consumer => exact .consumer (Run.consumerStep_moved stepped)
  | call =>
    unfold move? at moved
    dsimp only at moved
    split at moved <;> cases moved
    -- A call is made only by a consumer that rests.
    rename_i resting
    exact .called resting
  | cancel token =>
    unfold move? at moved
    dsimp only at moved
    split at moved <;> cases moved
    -- Nobody but the run has its stop token.
    rename_i foreign
    exact .cancelled token foreign

/-- One move may be played if it is possible. -/
theorem History.play?_single {sources : ModuleSources} {before after : History} {move : Move}
    (moved : before.move? sources move = some after) : before.play? sources [move] = some after := by
  simp [play?, moved]

/-- A step of a run is a move in every history of the run. -/
theorem History.move?_act {sources : ModuleSources} {history : History} {actor : Run.Actor} {signals : Signals}
    {run : Run} {answer : Option (Option ModuleOutcome)}
    (stepped : history.run.step sources actor history.signals = some ((signals, run), answer)) :
    history.move? sources (.act actor) =
      some { history with signals, run, answers := history.answers ++ answer.toList } := by
  simp [move?, stepped]

/-- A run may be called that rests. -/
theorem History.move?_call {sources : ModuleSources} {history : History}
    (resting : history.run.consumer = .resting) :
    history.move? sources .call = some { history with run := history.run.call } := by
  simp [move?, resting]

/-- A token may be cancelled that is not the stop token. -/
theorem History.move?_cancel {sources : ModuleSources} {history : History} {token : CancelToken}
    (foreign : token.own ≠ history.run.stop.own) :
    history.move? sources (.cancel token) =
      some { history with
        signals := history.signals.cancel token
        straddled := history.straddled ||
          (token.own = history.run.token.own && history.run.coordinator.isBetweenLooks) } := by
  simp [move?, foreign]

/-- No other run may be called than one that rests. -/
theorem History.resting_of_call {sources : ModuleSources} {history : History}
    (called : (history.move? sources .call).isSome = true) : history.run.consumer = .resting := by
  obtain ⟨next, moved⟩ := Option.isSome_iff_exists.mp called
  cases move?_moved moved with
  | called resting => exact resting

/-- After a call a run does not rest. -/
theorem Run.call_asks (run : Run) : run.call.consumer ≠ .resting := by
  unfold call
  split <;> simp

/-- What every move keeps holds after any number of moves. -/
theorem History.play?_keeps {sources : ModuleSources} {Holds : History → Prop} {moves : List Move}
    {first last : History}
    (step : ∀ move ∈ moves, ∀ before after, before.Moved sources move after → Holds before →
      Holds after)
    (played : first.play? sources moves = some last) (initially : Holds first) : Holds last := by
  -- The moves are made one after the other.
  induction moves generalizing first with
  | nil =>
    cases played
    exact initially
  | cons move rest ih =>
    obtain ⟨next, moved, played⟩ := Option.bind_eq_some_iff.mp played
    have now := step move List.mem_cons_self first next (move?_moved moved) initially
    exact ih (fun other member => step other (List.mem_cons_of_mem move member)) played now

namespace History

/-- The tokens of a run, its seed and its limit stay what they are. -/
structure SameRun (before after : History) : Prop where
  /-- The caller's token is the same. -/
  token : after.run.token = before.run.token
  /-- The stop token is the same. -/
  stop : after.run.stop = before.run.stop
  /-- The seed is the same. -/
  seed : after.run.seed = before.run.seed
  /-- The limit is the same. -/
  limit : after.run.limit = before.run.limit

/-- Every history is about its own run. -/
theorem SameRun.refl (history : History) : history.SameRun history := ⟨rfl, rfl, rfl, rfl⟩

/-- Histories about the same run as a third one are about the same run. -/
theorem SameRun.trans {first second third : History} (left : first.SameRun second)
    (right : second.SameRun third) : first.SameRun third where
  token := right.token.trans left.token
  stop := right.stop.trans left.stop
  seed := right.seed.trans left.seed
  limit := right.limit.trans left.limit

/-- No move changes the tokens of a run, its seed or its limit. -/
theorem Moved.sameRun {sources : ModuleSources} {before after : History} {move : Move}
    (moved : before.Moved sources move after) : before.SameRun after := by
  cases moved with
  | coordinator moved => cases moved <;> exact ⟨rfl, rfl, rfl, rfl⟩
  | worker _ moved => cases moved <;> exact ⟨rfl, rfl, rfl, rfl⟩
  | consumer moved => cases moved <;> exact ⟨rfl, rfl, rfl, rfl⟩
  -- A call changes the state and the consumer.
  | called resting => unfold Run.call; split <;> exact ⟨rfl, rfl, rfl, rfl⟩
  | cancelled token foreign => exact ⟨rfl, rfl, rfl, rfl⟩

end History

end ModuleScope
