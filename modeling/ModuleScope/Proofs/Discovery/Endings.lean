import ModuleScope.Proofs.Discovery.Batches

/-! How a run ends: what the coordinator announces is so, and the consumer is told of it last. -/

namespace ModuleScope

namespace CoordinatorStage

/-- The event that the coordinator is bound to send, if there is one. -/
def bound : CoordinatorStage → Option RunEvent
  | .collecting (.faulted error) => some (.failed error)
  | .collecting .cancelled => some (.finished .cancelled)
  | .announcing event => some event
  | _ => none

end CoordinatorStage

namespace RunEvent

/-- The state of a run that is ended by the event. -/
def state : RunEvent → RunState
  | .finished state => state
  | .failed _ => .faulted
  | .found _ => .draining

/-- The answer to the call that receives the event. -/
def answer : RunEvent → Option ModuleOutcome
  | .finished _ => none
  | .failed error => some (.error error)
  | .found module => some (.ok module)

end RunEvent

/-- The coordinator takes no step after it has gone. -/
theorem Run.CoordinatorMoved.active {signals signals' : Signals} {run run' : Run}
    (moved : CoordinatorMoved signals run signals' run') : run.coordinator ≠ .exited := by
  cases moved <;> simp_all

namespace History

/-- How a run from a seed may end when certain modules were found: its state, and the answer that ends it. -/
inductive Ending (sources : ModuleSources) (seed : Path) (isCancelled isStraddled : Bool)
    (modules : List FoundModule) : RunState → Option ModuleOutcome → Prop
  /-- The modules are all that is asked for. -/
  | completed (exhausted : Exhausted seed modules) :
      Ending sources seed isCancelled isStraddled modules .completed none
  /-- A path that is asked for could not be read. -/
  | faulted {path : Path} {error : ModuleFailure} (wanted : Wanted seed modules path)
      (failed : sources.describe path = .error error) :
      Ending sources seed isCancelled isStraddled modules .faulted (some (.error error))
  /-- The run was cancelled. -/
  | cancelled (observed : isCancelled = true) :
      Ending sources seed isCancelled isStraddled modules .cancelled none
  /-- The run was cancelled between two looks of the coordinator, which left without a word. -/
  | deserted (missed : isStraddled = true) (observed : isCancelled = true) :
      Ending sources seed isCancelled isStraddled modules .faulted none

/-- A run that may end in some way may still do so when it has been cancelled in the meantime. -/
theorem Ending.later {sources : ModuleSources} {seed : Path} {modules : List FoundModule}
    {isCancelled isStraddled isCancelled' isStraddled' : Bool} {state : RunState}
    {answer : Option ModuleOutcome} (ending : Ending sources seed isCancelled isStraddled modules state answer)
    (cancelled : isCancelled = true → isCancelled' = true)
    (straddled : isStraddled = true → isStraddled' = true) :
    Ending sources seed isCancelled' isStraddled' modules state answer := by
  cases ending with
  -- These two ends do not depend on the token.
  | completed exhausted => exact .completed exhausted
  | faulted wanted failed => exact .faulted wanted failed
  | cancelled observed => exact .cancelled (cancelled observed)
  | deserted missed observed => exact .deserted (straddled missed) (cancelled observed)

/-- How a history may end when certain modules were found. -/
abbrev MayEnd (sources : ModuleSources) (history : History) (modules : List FoundModule) :
    RunState → Option ModuleOutcome → Prop :=
  Ending sources history.run.seed (history.signals.isCancelled history.run.token) history.straddled modules

/-- The modules that a call was answered with, as answers. -/
def modulesOnly (answers : List (Option ModuleOutcome)) : List (Option ModuleOutcome) :=
  (answeredModules answers).map fun module => some (.ok module)

/-- What the coordinator is bound to send, what is in the events and what was answered is so. -/
structure Endings (sources : ModuleSources) (history : History) : Prop where
  /-- The stop token sees what the caller's token is told. -/
  child : history.run.stop.parent = some history.run.token.own
  /-- What the coordinator is bound to send is so. -/
  bound : history.run.listening = true → ∀ event, history.run.coordinator.bound = some event →
    history.MayEnd sources history.found event.state event.answer
  /-- A coordinator that finds the run stopped between its looks has missed a cancellation. -/
  between : history.run.listening = true → history.run.coordinator.isBetweenLooks = true →
    history.signals.isCancelled history.run.stop = true →
    history.straddled = true ∧ history.signals.isCancelled history.run.token = true
  /-- There are only modules in the events before the coordinator is gone. -/
  modules : history.run.listening = true → history.run.coordinator ≠ .exited →
    history.run.events = (sentModules history.run.events).map .found
  /-- A coordinator that is gone has said how the run ends, unless it missed a cancellation. -/
  last : history.run.listening = true → history.run.coordinator = .exited →
    (∃ event, history.run.events = (sentModules history.run.events).map .found ++ [event] ∧
      history.MayEnd sources history.found event.state event.answer) ∨
    history.run.events = (sentModules history.run.events).map .found ∧
      history.straddled = true ∧ history.signals.isCancelled history.run.token = true
  /-- Calls are answered with modules until the run has ended. -/
  talking : history.run.state.hasEnded = false → history.answers = modulesOnly history.answers
  /-- The call that ends a run gets the last answer, and later calls get none. -/
  conclusion : history.run.state.hasEnded = true → ∃ answer,
    history.MayEnd sources (answeredModules history.answers) history.run.state answer ∧
    (history.run.consumer = .joining answer ∧ history.answers = modulesOnly history.answers ∨
      ∃ later, history.answers =
        modulesOnly history.answers ++ answer :: List.replicate later none ∧
        (history.run.consumer = .resting ∨ history.run.consumer = .joining none))

variable {sources : ModuleSources} {before : History} {signals : Signals} {run : Run}

/-- When the queue is empty and all has been seen, the modules are all that is asked for. -/
theorem exhausted_of_drained (orderly : before.run.Orderly)
    (accounts : before.Accounts sources before.run.seed) (batches : before.Batches before.run.seed)
    (heard : before.run.listening = true) (started : before.run.state ≠ .idle)
    (stage : before.run.coordinator = .dispatching) (stale : before.run.batch = [])
    (empty : before.run.queue.drop before.run.limit = []) :
    Exhausted before.run.seed before.found := by
  have emptyHanded := orderly.emptyHanded (by rw [stage]; rfl)
  have delivered : before.delivered = before.found.map .ok := by
    simp [History.delivered, CoordinatorStage.inHand, stage, emptyHanded.2]
  have taken : before.taken = before.found := by
    simp [History.taken, CoordinatorStage.accepted, stage]
  -- The paths that have been seen are just those of the modules.
  have accounted := accounts.accounted
  rw [delivered, emptyHanded.1] at accounted
  have drawn := accounted.paths_subperm
  simp only [Run.pathsAt_nil, List.append_nil] at drawn
  -- There are no more of these paths than modules, so they are the same ones.
  have complete := batches.complete heard (by rw [stage]; rfl) (Or.inl (by rw [stage]; rfl))
  rw [delivered, emptyHanded.1] at complete
  have perm := drawn.perm_of_length_le (by simpa using complete)
  -- Whatever is asked for is in the queue, left over or seen, and only the last is possible now.
  intro path wanted
  have covered := batches.covered started (by rw [stage]; rfl) path (taken ▸ wanted)
  have seen : path.IsAmong before.run.seen := by
    rcases covered with queued | left | seen
    · have split := Run.batch_covers queued
      rw [empty, stale] at split
      simpa using split
    · rw [orderly.gathered (by rw [stage]; rfl)] at left
      cases left
    · exact seen
  exact seen.mono fun other member => perm.mem_iff.mpr member

/-- What the coordinator is bound to send after a step is so. -/
theorem Endings.bound_coordinator (moved : Run.CoordinatorMoved before.signals before.run signals run)
    (orderly : before.run.Orderly) (accounts : before.Accounts sources before.run.seed)
    (batches : before.Batches before.run.seed) (endings : before.Endings sources)
    (heard : run.listening = true) (event : RunEvent) (due : run.coordinator.bound = some event) :
    MayEnd sources { before with signals, run } (found { before with signals, run })
      event.state event.answer := by
  have started := orderly.not_idle moved
  have bound := endings.bound
  cases moved with
  | roundCancelled stage cancelled | closedCancelled stage cancelled =>
    -- The coordinator has just seen the token cancelled.
    cases due
    exact .cancelled cancelled
  | weighedCancelled result stage cancelled =>
    -- It has, and it has stopped the workers since.
    cases due
    exact .cancelled (Signals.isCancelled_cancel_of cancelled _)
  | refused error stage =>
    cases due
    -- The error came of a path that has been seen, and such a path was asked for.
    have member : .error error ∈ before.delivered := by
      simp [delivered, CoordinatorStage.inHand, stage]
    obtain ⟨path, seen, failed⟩ := accounts.accounted.exists_path member
    have wanted := batches.wanted heard path (Or.inr (Or.inr seen))
    simp only [taken, CoordinatorStage.accepted, stage, List.append_nil] at wanted
    exact .faulted wanted failed
  | drained stage stale empty =>
    cases due
    have all := exhausted_of_drained orderly accounts batches heard started stage stale empty
    exact .completed all
  | batchEnded outcome stage _ _ =>
    -- The outcome of the batch says what is sent after it.
    cases outcome with
    | goOn => cases due
    | abandoned => cases due
    | faulted error => exact bound heard event (by rw [stage]; exact due)
    | cancelled => exact bound heard event (by rw [stage]; exact due)
  -- Passing over results changes nothing about what is due.
  | passedOver _ _ _ _ _ _ => exact bound heard event due
  | _ => cases due

/-- A coordinator that has just looked at the caller's token finds the stop token as it should be. -/
theorem Endings.going (batches : before.Batches before.run.seed) (endings : before.Endings sources)
    (heard : before.run.listening = true) (intact : before.run.coordinator.isIntact = true)
    (live : before.signals.isCancelled before.run.token = false) :
    before.signals.isCancelled before.run.stop = false := by
  -- Neither its own signal nor the one it gets from the caller's token has been raised.
  have own := batches.unstopped heard intact
  have above : before.signals.isRaised before.run.token.own = false :=
    (Bool.or_eq_false_iff.mp live).1
  simp [Signals.isCancelled, own, endings.child, above]

/-- A step of the coordinator leads to the end that it is bound for. -/
theorem Endings.coordinator (moved : Run.CoordinatorMoved before.signals before.run signals run)
    (orderly : before.run.Orderly) (accounts : before.Accounts sources before.run.seed)
    (batches : before.Batches before.run.seed) (endings : before.Endings sources) :
    Endings sources { before with signals, run } where
  child := by cases moved <;> exact endings.child
  bound := endings.bound_coordinator moved orderly accounts batches
  between heard looking stopped := by
    cases moved with
    | roundStarted stage live | closed stage live =>
      -- A look at the caller's token comes just before one at the stop token.
      have going := endings.going batches heard (by rw [stage]; rfl) live
      cases going.symm.trans stopped
    | passedOver _ _ _ stage _ _ => simp [stage, CoordinatorStage.isBetweenLooks] at looking
    | batchEnded outcome _ _ _ => cases outcome <;> cases looking
    | _ => cases looking
  modules heard there := by
    have modules := endings.modules
    have active := moved.active
    cases moved with
    -- A module is sent behind the others.
    | sent module stage _ _ => simpa using modules heard active
    | roundStopped _ _ | closedStopped _ _ | announced _ _ _ _ | unheard _ _ _ => cases there rfl
    | _ => exact modules heard active
  last heard gone := by
    have modules := endings.modules
    have active := moved.active
    cases moved with
    | roundStopped stage stopped | closedStopped stage stopped =>
      -- The coordinator leaves without a word because it sees the stop token cancelled, though not the caller's token.
      exact Or.inr ⟨modules heard active, endings.between heard (by rw [stage]; rfl) stopped⟩
    | announced event stage _ _ =>
      -- What was sent is what the coordinator was bound to send.
      have so := endings.bound heard event (by rw [stage]; rfl)
      have none := sentModules_last (orderly.announces event stage)
      refine Or.inl ⟨event, ?_, ?_⟩
      · simpa [none] using modules heard active
      · simp only [found, sentModules_append, none, List.append_nil]
        exact so
    | unheard _ _ deaf => cases deaf.symm.trans heard
    | batchEnded outcome stage _ _ =>
      cases outcome with
      -- A batch is abandoned only when nobody listens any more.
      | abandoned => cases (orderly.heeded stage).symm.trans heard
      | goOn => cases gone
      | faulted error => cases gone
      | cancelled => cases gone
    | passedOver _ _ _ stage _ _ => cases stage.symm.trans gone
    | _ => cases gone
  talking := by cases moved <;> exact endings.talking
  conclusion ended := by
    have conclusion := endings.conclusion
    cases moved with
    | weighedCancelled _ _ _ | refused _ _ | abandoned _ _ _ =>
      -- These steps raise the stop signal; an end that was reached before stays possible.
      obtain ⟨answer, ending, rest⟩ := conclusion ended
      exact ⟨answer, ending.later (Signals.isCancelled_cancel_of · _) id, rest⟩
    | _ => exact conclusion ended

/-- A step of a worker does not change how the run ends. -/
theorem Endings.worker (moved : Run.WorkerMoved sources before.signals before.run run)
    (endings : before.Endings sources) : Endings sources { before with run } := by
  -- Workers touch neither the events nor the answers.
  cases moved <;>
    exact
      { child := endings.child
        bound := endings.bound
        between := endings.between
        modules := endings.modules
        last := endings.last
        talking := endings.talking
        conclusion := endings.conclusion }

/-- An event that is no module is the last one of all. -/
theorem last_of_found {modules : List FoundModule} {event first : RunEvent} {rest : List RunEvent}
    (events : first :: rest = modules.map .found ++ [event]) (last : first.isLast = true) :
    modules = [] ∧ first = event := by
  cases modules with
  | nil => exact ⟨rfl, (List.cons.inj events).1⟩
  | cons module modules =>
    rw [(List.cons.inj events).1] at last
    cases last

/-- Events of which one ends the run do not only tell of modules. -/
theorem not_modules_of_last {event : RunEvent} (rest : List RunEvent) (last : event.isLast = true)
    (modules : List FoundModule) : event :: rest ≠ modules.map .found := by
  intro same
  have member : event ∈ modules.map RunEvent.found := same ▸ List.mem_cons_self
  obtain ⟨module, _, rfl⟩ := List.mem_map.mp member
  cases last

/-- The event that ends the run says so, and it is the last one of a coordinator that is gone. -/
theorem Endings.parting {event : RunEvent} {rest : List RunEvent} (endings : before.Endings sources)
    (heard : before.run.listening = true) (events : before.run.events = event :: rest) (last : event.isLast = true) :
    before.run.coordinator = .exited ∧ rest = [] ∧ before.MayEnd sources before.found event.state event.answer := by
  -- As long as the coordinator is there it has sent modules only.
  by_cases gone : before.run.coordinator = .exited
  · refine ⟨gone, ?_⟩
    rcases endings.last heard gone with ⟨told, sent, ending⟩ | ⟨sent, _⟩
    · rw [events] at sent
      obtain ⟨none, rfl⟩ := last_of_found sent last
      exact ⟨by simpa [none] using sent, ending⟩
    · exact absurd (events ▸ sent) (not_modules_of_last rest last _)
  · exact absurd (events ▸ endings.modules heard gone) (not_modules_of_last rest last _)

/-- All modules have been answered when the event comes that ends the run. -/
theorem Endings.first {event : RunEvent} {rest : List RunEvent} (endings : before.Endings sources)
    (heard : before.run.listening = true) (events : before.run.events = event :: rest)
    (last : event.isLast = true) :
    MayEnd sources before (answeredModules before.answers) event.state event.answer := by
  obtain ⟨_, rfl, ending⟩ := endings.parting heard events last
  simpa [found, events, sentModules_last last] using ending

/-- A run that ends for its consumer ends as the consumer was told. -/
theorem Endings.finish {state : RunState} {answer : Option ModuleOutcome}
    (endings : before.Endings sources) (draining : before.run.state = .draining)
    (ended : state.hasEnded = true)
    (ending : before.MayEnd sources (answeredModules before.answers) state answer) :
    Endings sources { before with
      signals := (before.run.finish before.signals state answer).1
      run := (before.run.finish before.signals state answer).2 } where
  child := endings.child
  bound heard := by cases heard
  between heard := by cases heard
  modules heard := by cases heard
  last heard := by cases heard
  talking going := by cases ended.symm.trans going
  conclusion _ := by
    -- The call that ends the run has not been answered yet.
    have talking := endings.talking (by rw [draining]; rfl)
    exact ⟨answer, ending.later (Signals.isCancelled_cancel_of · _) id, Or.inl ⟨rfl, talking⟩⟩

/-- A module that is received is no longer in the events, but it is answered. -/
theorem Endings.received {module : FoundModule} {rest : List RunEvent}
    (going : before.run.state.hasEnded = false) (events : before.run.events = .found module :: rest)
    (endings : before.Endings sources) :
    Endings sources { before with
      run := { before.run with events := rest, consumer := .resting }
      answers := before.answers ++ [some (.ok module)] } := by
  -- The module is only told of in another place.
  have same : found { before with
      run := { before.run with events := rest, consumer := .resting }
      answers := before.answers ++ [some (.ok module)] } = before.found := by
    simp [found, events, answeredModules]
  have modules := endings.modules
  have last := endings.last
  simp only [events, sentModules_found, List.map_cons, List.cons_append, List.cons.injEq,
    true_and] at modules last
  exact
    { child := endings.child
      bound := fun heard event due => by
        rw [same]
        exact endings.bound heard event due
      between := endings.between
      modules := modules
      last := fun heard gone => by
        rw [same]
        exact last heard gone
      talking := fun _ => by
        have talking := endings.talking going
        simpa [modulesOnly, answeredModules] using talking
      conclusion := fun ended => by cases going.symm.trans ended }

/-- A call that ends the run, or comes after its end, is answered when the coordinator is gone. -/
theorem Endings.answered {outcome : Option ModuleOutcome} (orderly : before.run.Orderly)
    (stage : before.run.consumer = .joining outcome) (endings : before.Endings sources) :
    Endings sources { before with
      run := { before.run with consumer := .resting }
      answers := before.answers ++ [outcome] } := by
  have joins := orderly.joins outcome stage
  -- The call is past the end, so nobody listens.
  have deaf : before.run.listening = false := by simp [orderly.listens, joins.1]
  have same : answeredModules (before.answers ++ [outcome]) = answeredModules before.answers := by
    simp [answeredModules_none joins.2]
  exact
    { child := endings.child
      bound := fun heard => by cases deaf.symm.trans heard
      between := fun heard => by cases deaf.symm.trans heard
      modules := fun heard => by cases deaf.symm.trans heard
      last := fun heard => by cases deaf.symm.trans heard
      talking := fun going => by cases joins.1.symm.trans going
      conclusion := fun _ => by
        obtain ⟨answer, ending, told⟩ := endings.conclusion joins.1
        refine ⟨answer, by simpa [same] using ending, Or.inr ?_⟩
        rcases told with ⟨joining, talking⟩ | ⟨later, answers, resting | joining⟩
        · -- This call ended the run.
          cases joining.symm.trans stage
          refine ⟨0, ?_, Or.inl rfl⟩
          simp only [modulesOnly, same]
          simpa [modulesOnly] using talking
        · -- A call that rests is not being answered.
          cases resting.symm.trans stage
        · -- An earlier call did.
          cases joining.symm.trans stage
          refine ⟨later + 1, ?_, Or.inl rfl⟩
          have more := congrArg (· ++ [none]) answers
          simpa [modulesOnly, same, List.replicate_succ'] using more }

/-- A step of the consumer tells it how the run ends. -/
theorem Endings.consumer {answer : Option (Option ModuleOutcome)}
    (moved : Run.ConsumerMoved before.signals before.run signals run answer)
    (orderly : before.run.Orderly) (endings : before.Endings sources) :
    Endings sources { before with signals, run, answers := before.answers ++ answer.toList } := by
  cases moved with
  | cancelled stage cancelled =>
    -- The consumer has seen the token cancelled itself.
    have draining := orderly.asks (Or.inl stage)
    simpa using endings.finish draining rfl (.cancelled cancelled)
  | failed error rest stage events =>
    -- What it receives is the event that the coordinator was bound to send.
    have draining := orderly.asks (Or.inr stage)
    have ending : before.MayEnd sources (answeredModules before.answers) .faulted
      (some (.error error)) := endings.first (orderly.heard draining) events rfl
    simpa using endings.finish draining rfl ending
  | finished state rest stage events =>
    have draining := orderly.asks (Or.inr stage)
    have ended := orderly.ended events
    have ending : before.MayEnd sources (answeredModules before.answers) state none :=
      endings.first (orderly.heard draining) events ended
    simpa using endings.finish draining ended ending
  | deserted stage events gone =>
    have draining := orderly.asks (Or.inr stage)
    -- A coordinator that has said nothing has missed a cancellation.
    rcases endings.last (orderly.heard draining) gone with ⟨_, sent, _⟩ | ⟨_, missed, cancelled⟩
    · simp [events] at sent
    · simpa using endings.finish draining rfl (.deserted missed cancelled)
  | waited stage _ | timedOut stage _ _ =>
    -- Nothing is told.
    have going := orderly.going (by simp [stage])
    exact
      { child := endings.child
        bound := by simpa [found] using endings.bound
        between := endings.between
        modules := endings.modules
        last := by simpa [found] using endings.last
        talking := by simpa using endings.talking
        conclusion := fun ended => by cases going.symm.trans ended }
  | received module rest stage events =>
    exact endings.received (orderly.going (Or.inr stage)) events
  | answered outcome stage gone => exact endings.answered orderly stage

/-- A call does not change how the run ends. -/
theorem Endings.call (orderly : before.run.Orderly) (resting : before.run.consumer = .resting)
    (endings : before.Endings sources) : Endings sources { before with run := before.run.call } := by
  unfold Run.call
  split
  · -- The first call starts the search, and nothing has been said yet.
    rename_i idle
    have going : before.run.state.hasEnded = false := by
      rw [idle]
      rfl
    have events : before.run.events = [] := by rw [orderly.untouched idle]
    exact
      { child := endings.child
        bound := fun _ _ due => by cases due
        between := fun _ looking => by cases looking
        modules := fun _ _ => by rw [events]; rfl
        last := fun _ gone => by cases gone
        talking := fun _ => endings.talking going
        conclusion := fun ended => by cases ended }
  · -- A call in the middle has no end to speak of.
    rename_i draining
    exact { endings with
      conclusion := fun ended => by
        have same : before.run.state.hasEnded = true := ended
        rw [draining] at same
        cases same }
  all_goals
    exact { endings with
      conclusion := fun ended => by
        -- The call that ended the run has been answered.
        obtain ⟨answer, ending, ⟨joining, _⟩ | ⟨later, answers, _⟩⟩ := endings.conclusion ended
        · cases joining.symm.trans resting
        · exact ⟨answer, ending, Or.inr ⟨later, answers, Or.inr rfl⟩⟩ }

/-- Cancelling a token that is not the stop token leads to an end that is known. -/
theorem Endings.cancel (token : CancelToken) (foreign : token.own ≠ before.run.stop.own)
    (endings : before.Endings sources) :
    Endings sources { before with
      signals := before.signals.cancel token
      straddled := before.straddled ||
        (token.own = before.run.token.own && before.run.coordinator.isBetweenLooks) } where
  child := endings.child
  bound heard event due := (endings.bound heard event due).later
    (Signals.isCancelled_cancel_of · _) (by simp +contextual)
  between heard looking stopped := by
    -- If the stop token was cancelled before, that had been missed before.
    by_cases already : before.signals.isCancelled before.run.stop = true
    · have missed := endings.between heard looking already
      exact ⟨by simp [missed.1], Signals.isCancelled_cancel_of missed.2 token⟩
    · -- The stop token sees nothing new unless the caller's token was cancelled.
      have child := endings.child
      simp only [Signals.isCancelled, Signals.cancel, child, Option.any_some, Bool.or_eq_true,
        not_or, Signals.isRaised_raise_ne foreign] at already stopped
      have raised := stopped.resolve_left already.1
      have same : token.own = before.run.token.own := by
        by_contra other
        rw [Signals.isRaised_raise_ne other] at raised
        exact already.2 raised
      refine ⟨by simp [same, looking], ?_⟩
      simp [Signals.isCancelled, Signals.cancel, raised]
  modules := endings.modules
  last heard gone := by
    rcases endings.last heard gone with ⟨event, events, ending⟩ | ⟨events, missed, observed⟩
    · exact Or.inl ⟨event, events,
        ending.later (Signals.isCancelled_cancel_of · _) (by simp +contextual)⟩
    · exact Or.inr ⟨events, by simp [missed], Signals.isCancelled_cancel_of observed token⟩
  talking := endings.talking
  conclusion ended := by
    obtain ⟨answer, ending, rest⟩ := endings.conclusion ended
    exact ⟨answer, ending.later (Signals.isCancelled_cancel_of · _) (by simp +contextual), rest⟩

/-- Every move leads to an end that is known. -/
theorem Endings.step {after : History} {move : Move} (moved : before.Moved sources move after)
    (orderly : before.run.Orderly) (accounts : before.Accounts sources before.run.seed)
    (batches : before.Batches before.run.seed) (endings : before.Endings sources) :
    after.Endings sources := by
  cases moved with
  | coordinator moved => exact endings.coordinator moved orderly accounts batches
  | worker _ moved => exact endings.worker moved
  | consumer moved => exact endings.consumer moved orderly
  | called resting => exact endings.call orderly resting
  | cancelled token foreign => exact endings.cancel token foreign

/-- Modules have been answered so far, then the error if there is one, and then nothing any more. -/
structure Told (sources : ModuleSources) (history : History) (error? : Option ModuleFailure) (later : Nat) :
    Prop where
  /-- There is nothing else among the answers. -/
  answers : history.answers =
    modulesOnly history.answers ++ error?.toList.map (fun error => some (.error error)) ++ List.replicate later none
  /-- A run that has not ended has answered nothing but modules. -/
  going : history.run.state.hasEnded = false → error? = none ∧ later = 0
  /-- A run that has answered an error has faulted. -/
  faulted : ∀ error, error? = some error → history.run.state = .faulted
  /-- Between two calls the consumer knows how the run has ended. -/
  settled : history.run.state.hasEnded = true → history.run.consumer = .resting →
    (error? ≠ none ∨ 0 < later) ∧
      history.MayEnd sources (answeredModules history.answers) history.run.state (error?.map .error)

/-- All answers of a run are of that kind. -/
theorem Endings.told {history : History} (endings : history.Endings sources) :
    ∃ error? later, history.Told sources error? later := by
  cases ended : history.run.state.hasEnded with
  | false =>
    exact ⟨none, 0,
      { answers := by simpa using endings.talking ended
        going := fun _ => ⟨rfl, rfl⟩
        faulted := fun _ same => by cases same
        settled := fun past => by cases ended.symm.trans past }⟩
  | true =>
    have past : history.run.state.hasEnded ≠ false := by simp [ended]
    obtain ⟨answer, ending, ⟨joining, talking⟩ | ⟨later, answers, _⟩⟩ := endings.conclusion ended
    · -- The call that ended the run has not been answered yet.
      exact ⟨none, 0,
        { answers := by simpa using talking
          going := fun going => absurd going past
          faulted := fun _ same => by cases same
          settled := fun _ resting => by cases joining.symm.trans resting }⟩
    · rcases answer with _ | error | module
      · -- The end came without an error, and each call after it was answered with nothing.
        exact ⟨none, later + 1,
          { answers := by simpa [List.replicate_succ] using answers
            going := fun going => absurd going past
            faulted := fun _ same => by cases same
            settled := fun _ _ => ⟨Or.inr (Nat.succ_pos later), ending⟩ }⟩
      · -- The end came with an error, which is answered once.
        exact ⟨some error, later,
          { answers := by simpa using answers
            going := fun going => absurd going past
            faulted := fun _ _ => by
              generalize history.run.state = state at ending
              cases ending
              rfl
            settled := fun _ _ => ⟨Or.inl (by simp), ending⟩ }⟩
      · -- No module ends a run.
        generalize history.run.state = state at ending
        cases ending

end History

end ModuleScope
