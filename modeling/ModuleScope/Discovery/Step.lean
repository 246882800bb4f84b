import ModuleScope.Discovery.Run

/-! The single steps of a run, in which the coordinator, the workers and the consumer take turns in any order. -/

namespace ModuleScope.Run

/-- The paths that are not the same as an earlier one or one that was seen, and all that are seen then. -/
def selectUnseen (seen : List Path) : List Path → List Path × List Path
  | [] => ([], seen)
  | path :: rest =>
    -- A path is seen as soon as it is selected.
    if seen.any fun other => decide (path.Same other) then selectUnseen seen rest
    else
      let (batch, seen) := selectUnseen (path :: seen) rest
      (path :: batch, seen)

/-- Takes a batch from the queue. -/
def dispatch (run : Run) : Run :=
  -- A batch may be empty although the queue is not: all of its paths may have been seen.
  let popped := run.queue.take run.limit
  let queue := run.queue.drop run.limit
  let (batch, seen) := selectUnseen run.seen popped
  let run := { run with queue, seen, pops := run.pops + popped.length }
  if !batch.isEmpty then
    { run with
      workers := batch.map fun path => ⟨path, .arriving⟩
      references := []
      coordinator := .collecting .goOn }
  else if queue.isEmpty then { run with coordinator := .announcing (.finished .completed) }
  else { run with coordinator := .checking }

/-- All workers are gone. -/
def isIdle (run : Run) : Bool := run.workers.all fun worker => worker.stage = .gone

/-- How the coordinator goes on after a batch. -/
def afterBatch (outcome : BatchStatus) : CoordinatorStage :=
  match outcome with
  | .goOn => .closing
  | .faulted error => .announcing (.failed error)
  | .cancelled => .announcing (.finished .cancelled)
  | .abandoned => .exited

/-- A step of the coordinator, unless it has to wait. -/
def coordinatorStep (signals : Signals) (run : Run) : Option (Signals × Run) :=
  let stay := fun (run : Run) => some (signals, run)
  match run.coordinator with
  | .unstarted | .exited => none
  | .checking =>
    -- A round starts here.
    let run := { run with rounds := run.rounds + 1 }
    if signals.isCancelled run.token then
      stay { run with coordinator := .announcing (.finished .cancelled) }
    else stay { run with coordinator := .checkingStop }
  | .checkingStop =>
    if signals.isCancelled run.stop then stay { run with coordinator := .exited }
    else stay { run with coordinator := .dispatching }
  | .dispatching => stay run.dispatch
  | .collecting outcome =>
    -- Results are passed over once the batch has gone wrong.
    match run.results, outcome with
    | result :: rest, .goOn => stay { run with results := rest, coordinator := .weighing result }
    | _ :: rest, _ => stay { run with results := rest }
    | [], _ =>
      if run.isIdle then stay { run with workers := [], coordinator := afterBatch outcome } else none
  | .weighing result =>
    if signals.isCancelled run.token then
      some (signals.cancel run.stop, { run with coordinator := .collecting .cancelled })
    else stay { run with coordinator := .accepting result }
  | .accepting (.ok module) =>
    stay { run with
      references := run.references ++ module.declared.references
      coordinator := .sending module }
  | .accepting (.error error) =>
    some (signals.cancel run.stop, { run with coordinator := .collecting (.faulted error) })
  | .sending module =>
    -- There is room for as many events as modules may be read at the same time.
    if !run.listening then
      some (signals.cancel run.stop, { run with coordinator := .collecting .abandoned })
    else if run.events.length < run.limit then
      stay { run with events := run.events ++ [.found module], coordinator := .collecting .goOn }
    else none
  | .closing =>
    if signals.isCancelled run.token then
      stay { run with coordinator := .announcing (.finished .cancelled) }
    else stay { run with coordinator := .closingStop }
  | .closingStop =>
    -- References join the queue after the whole batch.
    if signals.isCancelled run.stop then stay { run with coordinator := .exited }
    else
      stay { run with queue := run.queue ++ run.references, references := [], coordinator := .checking }
  | .announcing event =>
    if !run.listening then stay { run with coordinator := .exited }
    else if run.events.length < run.limit then
      stay { run with events := run.events ++ [event], coordinator := .exited }
    else none

/-- The run with a worker at another stage. -/
def setStage (run : Run) (index : Nat) (worker : Worker) (stage : WorkerStage) : Run :=
  { run with workers := run.workers.set index { worker with stage } }

/-- A step of a worker, unless it is gone. -/
def workerStep (sources : ModuleSources) (signals : Signals) (run : Run) (index : Nat) : Option Run := do
  let worker ← run.workers[index]?
  match worker.stage with
  | .arriving =>
    if signals.isCancelled run.stop then some (run.setStage index worker .gone)
    else some (run.setStage index worker .waiting)
  | .waiting =>
    -- Waiting is broken off from time to time.
    match run.gate.take? with
    | some gate => some { run.setStage index worker .admitted with gate }
    | none => some (run.setStage index worker .arriving)
  | .admitted =>
    if signals.isCancelled run.stop then some (run.setStage index worker .leaving)
    else
      let run := run.setStage index worker .reading
      some { run with reads := worker.path :: run.reads, peak := max run.peak run.readingCount }
  | .reading =>
    some { run.setStage index worker .leaving with
      results := run.results ++ [sources.describe worker.path] }
  | .leaving => some { run.setStage index worker .gone with gate := run.gate.release }
  | .gone => none

/-- Ends the run for its consumer. -/
def finish (signals : Signals) (run : Run) (state : RunState) (answer : Option ModuleOutcome) :
    Signals × Run :=
  -- Events that were not taken are lost.
  (signals.cancel run.stop,
    { run with state, listening := false, events := [], consumer := .joining answer })

/-- The consumer asks for the next module. -/
def call (run : Run) : Run :=
  -- The first call starts the run.
  match run.state with
  | .idle =>
    { run with
      state := .draining, queue := [run.seed], coordinator := .checking, consumer := .checking }
  | .draining => { run with consumer := .checking }
  | .completed | .faulted | .cancelled => { run with consumer := .joining none }

/-- What comes of a step of the consumer: the run after it, and the answer to the call if it has ended. -/
abbrev ConsumerResult := (Signals × Run) × Option (Option ModuleOutcome)

/-- A step of the consumer, unless it has to wait. -/
def consumerStep (signals : Signals) (run : Run) : Option ConsumerResult :=
  match run.consumer with
  | .resting => none
  | .checking =>
    if signals.isCancelled run.token then some (run.finish signals .cancelled none, none)
    else some ((signals, { run with consumer := .receiving }), none)
  | .receiving =>
    -- Waiting is broken off from time to time; a coordinator that is gone without a word is a fault.
    match run.events with
    | .found module :: rest =>
      some ((signals, { run with events := rest, consumer := .resting }), some (some (.ok module)))
    | .failed error :: _ => some (run.finish signals .faulted (some (.error error)), none)
    | .finished state :: _ => some (run.finish signals state none, none)
    | [] =>
      match run.coordinator with
      | .exited => some (run.finish signals .faulted none, none)
      | _ => some ((signals, { run with consumer := .checking }), none)
  | .joining answer =>
    match run.coordinator with
    | .exited => some ((signals, { run with consumer := .resting }), some answer)
    | _ => none

/-- Who may take a step. -/
inductive Actor
  /-- The coordinator. -/
  | coordinator
  /-- A worker of the current batch. -/
  | worker (index : Nat)
  /-- The consumer, during a call. -/
  | consumer
deriving DecidableEq, Repr

/-- A step of one of those who take part, and the answer to the call that it ends. -/
def step (sources : ModuleSources) (actor : Actor) (signals : Signals) (run : Run) :
    Option ConsumerResult :=
  match actor with
  | .coordinator => (run.coordinatorStep signals).map fun after => (after, none)
  | .worker index => (run.workerStep sources signals index).map fun after => ((signals, after), none)
  | .consumer => run.consumerStep signals

/-- The consumer goes away. -/
def drop (signals : Signals) (run : Run) : Signals × Run :=
  -- The workers are told to stop.
  (signals.cancel run.stop, { run with listening := false, events := [] })

end ModuleScope.Run
