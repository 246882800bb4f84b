import ModuleScope.Discovery.Gate
import ModuleScope.Discovery.Signal
import ModuleScope.Module.Found
import ModuleScope.Path.Debug

/-! The parts of a run: a coordinator that hands out batches, workers that read modules, and a consumer. -/

namespace ModuleScope

/-- Where a run stands, as its consumer sees it. -/
inductive RunState
  /-- Nothing has been asked for yet. -/
  | idle
  /-- Modules are being read. -/
  | draining
  /-- Every module was found. -/
  | completed
  /-- A module could not be read. -/
  | faulted
  /-- The run was told to stop. -/
  | cancelled
deriving DecidableEq, Repr

namespace RunState

/-- The name of the state. -/
def display : RunState → String
  | idle => "Idle"
  | draining => "Draining"
  | completed => "Completed"
  | faulted => "Faulted"
  | cancelled => "Cancelled"

/-- Whether the run has ended. -/
def hasEnded : RunState → Bool
  | idle | draining => false
  | completed | faulted | cancelled => true

end RunState

/-- What came of reading a module. -/
abbrev ModuleOutcome := Except ModuleFailure FoundModule

/-- What the coordinator tells the consumer. -/
inductive RunEvent
  /-- A module was found. -/
  | found (module : FoundModule)
  /-- A module could not be read, and the run is over. -/
  | failed (error : ModuleFailure)
  /-- The run is over. -/
  | finished (state : RunState)

/-- How the results of a batch are being taken. -/
inductive BatchStatus
  /-- All is well. -/
  | goOn
  /-- A module could not be read. -/
  | faulted (error : ModuleFailure)
  /-- The run was told to stop. -/
  | cancelled
  /-- The consumer went away. -/
  | abandoned

/-- What a worker does next. -/
inductive WorkerStage
  /-- Looks whether it is to stop before it asks for a permit. -/
  | arriving
  /-- Waits for a permit. -/
  | waiting
  /-- Has a permit and looks once more whether it is to stop. -/
  | admitted
  /-- Reads its module. -/
  | reading
  /-- Gives its permit back. -/
  | leaving
  /-- Is gone. -/
  | gone
deriving DecidableEq, Repr

/-- The worker has a permit. -/
def WorkerStage.holdsPermit : WorkerStage → Bool
  | admitted | reading | leaving => true
  | arriving | waiting | gone => false

/-- A worker. -/
structure Worker where
  /-- The path of its module. -/
  path : Path
  /-- What it does next. -/
  stage : WorkerStage := .arriving
deriving DecidableEq, Repr

/-- What the coordinator does next. -/
inductive CoordinatorStage
  /-- Nothing, before the first call. -/
  | unstarted
  /-- Looks whether the run was cancelled before it takes a batch. -/
  | checking
  /-- Looks whether the run was stopped before it takes a batch. -/
  | checkingStop
  /-- Takes a batch from the queue. -/
  | dispatching
  /-- Takes results from the workers. -/
  | collecting (outcome : BatchStatus)
  /-- Has a result and looks whether the run was cancelled. -/
  | weighing (result : ModuleOutcome)
  /-- Takes account of a result. -/
  | accepting (result : ModuleOutcome)
  /-- Tells the consumer of a module. -/
  | sending (module : FoundModule)
  /-- Has all results and looks whether the run was cancelled. -/
  | closing
  /-- Has all results and looks whether the run was stopped. -/
  | closingStop
  /-- Tells the consumer how the run ends. -/
  | announcing (event : RunEvent)
  /-- Is gone. -/
  | exited

/-- What the consumer does next. -/
inductive ConsumerStage
  /-- Nothing, between two calls. -/
  | resting
  /-- Looks whether the run was cancelled. -/
  | checking
  /-- Waits for an event. -/
  | receiving
  /-- Waits for the coordinator to go away before it answers. -/
  | joining (answer : Option ModuleOutcome)

/-- A run from one seed. -/
structure Run where
  /-- The caller's token. -/
  token : CancelToken
  /-- The token that stops the workers, a child of the caller's. -/
  stop : CancelToken
  /-- The path that the run starts from. -/
  seed : Path
  /-- How many modules may be read at the same time, which is also the size of a batch. -/
  limit : Nat
  /-- Where the run stands, as the consumer sees it. -/
  state : RunState := .idle
  /-- What the consumer does next. -/
  consumer : ConsumerStage := .resting
  /-- What the coordinator does next. -/
  coordinator : CoordinatorStage := .unstarted
  /-- Paths to be looked at, oldest first. -/
  queue : List Path := []
  /-- Paths that were handed to workers, or were about to be. -/
  seen : List Path := []
  /-- The workers of the current batch. -/
  workers : List Worker := []
  /-- The gate that workers pass before they read. -/
  gate : Gate
  /-- Results that the coordinator has not taken yet, oldest first. -/
  results : List ModuleOutcome := []
  /-- References found in the current batch. -/
  references : List Path := []
  /-- Events that the consumer has not taken yet, oldest first. -/
  events : List RunEvent := []
  /-- Whether the consumer still takes events. -/
  listening : Bool := true
  /-- Paths whose reading has started, last path first. -/
  reads : List Path := []
  /-- The paths taken from the queue so far. -/
  pops : Nat := 0
  /-- The rounds that the coordinator has started so far. -/
  rounds : Nat := 0
  /-- The greatest number of modules that were being read at the same time. -/
  peak : Nat := 0

namespace Run

/-- A run that has not started. -/
def new (signals : Signals) (token : CancelToken) (seed : Path) (limit : Nat) : Run × Signals :=
  -- Stopping the workers does not cancel the caller's token.
  let (stop, signals) := signals.childToken token
  ({ token, stop, seed, limit := max limit 1, gate := Gate.new limit }, signals)

/-- How many workers are reading. -/
def readingCount (run : Run) : Nat := (run.workers.filter fun worker => worker.stage = .reading).length

/-- The run as text. -/
def debug (run : Run) : String :=
  "DiscoveryRun \x7b seed: " ++ run.seed.debug ++ ", state: " ++ run.state.display ++ " \x7d"

end Run

end ModuleScope
