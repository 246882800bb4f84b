import ModuleScope.Discovery.Step

/-! One order of the steps of a run: others go on only while the consumer has to wait for them. -/

namespace ModuleScope.Run

/-- The coordinator is gone. -/
def hasExited (run : Run) : Bool :=
  match run.coordinator with
  | .exited => true
  | _ => false

/-- Whether the consumer can go on without the others. -/
def isConsumerReady (run : Run) : Bool :=
  match run.consumer with
  | .resting | .checking => true
  | .receiving => !run.events.isEmpty || run.hasExited
  | .joining _ => run.hasExited

/-- The worker that goes on: the one that has a permit, or else the first one that is not gone. -/
def nextWorker (run : Run) : Nat :=
  -- So a permit is given back before another worker asks for one.
  match run.workers.findIdx? fun worker => worker.stage.holdsPermit with
  | some index => index
  | none => run.workers.findIdx fun worker => worker.stage ≠ .gone

/-- Who goes on while the consumer has to wait. -/
def nextOther (signals : Signals) (run : Run) : Actor :=
  -- Workers go on one after the other while the coordinator waits for them.
  if (run.coordinatorStep signals).isSome then .coordinator else .worker run.nextWorker

/-- Who takes the next step. -/
def nextActor (signals : Signals) (run : Run) : Actor :=
  if run.isConsumerReady then .consumer else run.nextOther signals

/-- Goes on from state to state until there is a result. -/
def goUntil {α β : Type} [Nonempty β] (goOn : α → α ⊕ β) (state : α) : β :=
  -- Nothing bounds the number of states.
  (repeatM (m := Id) (fun state => pure (goOn state)) state).run

/-- Either the next state leads to the result, or it is there. -/
theorem goUntil_eq {α β : Type} [Nonempty β] (goOn : α → α ⊕ β) (state : α) :
    goUntil goOn state =
      match goOn state with
      | .inl next => goUntil goOn next
      | .inr result => result := by
  unfold goUntil
  rw [repeatM_eq_of_monadTail]
  unfold repeatM.body
  simp only [pure_bind]
  cases goOn state <;> rfl

/-- Takes the next step, which may answer the call. -/
def goOn (sources : ModuleSources) (state : Signals × Run) :
    (Signals × Run) ⊕ (Option ModuleOutcome × Signals × Run) :=
  match state.2.step sources (state.2.nextActor state.1) state.1 with
  | none => .inr (none, state)
  | some (next, some answer) => .inr (answer, next)
  | some (next, none) => .inl next

instance : Nonempty (Option ModuleOutcome × Signals × Run) := ⟨none, {}, (Run.new {} ⟨0, none⟩ ⟨[]⟩ 1).1⟩

/-- Takes one step after the other until the call is answered. -/
def drive (sources : ModuleSources) (signals : Signals) (run : Run) :
    Option ModuleOutcome × Signals × Run :=
  goUntil (goOn sources) (signals, run)

/-- Asks a run for its next module. -/
def next (sources : ModuleSources) (signals : Signals) (run : Run) :
    Option ModuleOutcome × Signals × Run :=
  drive sources signals run.call

/-- What a run has answered until its end. -/
structure Drained where
  /-- The modules, in order. -/
  modules : List FoundModule
  /-- The error that ended the run, if one did. -/
  error? : Option ModuleFailure
  /-- All signals. -/
  signals : Signals
  /-- The run. -/
  run : Run

instance : Nonempty Drained := ⟨⟨[], none, {}, (Run.new {} ⟨0, none⟩ ⟨[]⟩ 1).1⟩⟩

/-- Asks a run for one more module, given those that it has answered, the latest first. -/
def askOn (sources : ModuleSources) (state : List FoundModule × Signals × Run) :
    (List FoundModule × Signals × Run) ⊕ Drained :=
  match state.2.2.next sources state.2.1 with
  | (some (.ok module), next) => .inl (module :: state.1, next)
  | (some (.error error), signals, run) => .inr ⟨state.1.reverse, some error, signals, run⟩
  | (none, signals, run) => .inr ⟨state.1.reverse, none, signals, run⟩

/-- Asks a run for one module after the other, until it answers something else. -/
def drainFrom (sources : ModuleSources) (found : List FoundModule) (signals : Signals) (run : Run) : Drained :=
  goUntil (askOn sources) (found, signals, run)

/-- Asks a run for all its modules. -/
def drain (sources : ModuleSources) (signals : Signals) (run : Run) : Drained := drainFrom sources [] signals run

end ModuleScope.Run
