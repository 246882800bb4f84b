import ModuleScope.Proofs.Discovery.History

/-! What the stages of the coordinator and the consumer say about the rest of a run. -/

namespace ModuleScope

namespace CoordinatorStage

/-- A batch is being read, and its outcomes are being taken. -/
def isBusy : CoordinatorStage → Bool
  | .collecting _ | .weighing _ | .accepting _ | .sending _ => true
  | _ => false

/-- There is no batch, and one may be taken. -/
def isSettled : CoordinatorStage → Bool
  | .checking | .checkingStop | .dispatching => true
  | _ => false

end CoordinatorStage

namespace RunEvent

/-- The event ends the run. -/
def isLast : RunEvent → Bool
  | .found _ => false
  | .failed _ => true
  | .finished state => state.hasEnded

end RunEvent

namespace Run

/-- Nothing has happened to the run since it was made. -/
def Untouched (run : Run) : Prop :=
  run = { token := run.token, stop := run.stop, seed := run.seed, limit := run.limit, gate := run.gate }

/-- The stages of those who take part fit the rest of the run. -/
structure Orderly (run : Run) : Prop where
  /-- Nothing happens before the first call. -/
  untouched : run.state = .idle → run.Untouched
  /-- Events are taken as long as the run has not ended. -/
  listens : run.listening = !run.state.hasEnded
  /-- The consumer looks and waits only in a run that is under way. -/
  asks : run.consumer = .checking ∨ run.consumer = .receiving → run.state = .draining
  /-- The call that ends the run, and each one after it, is not answered with a module. -/
  joins : ∀ answer, run.consumer = .joining answer →
    run.state.hasEnded = true ∧ ∀ module, answer ≠ some (.ok module)
  /-- Events that are no modules end the run. -/
  tells : ∀ event ∈ run.events, event.isLast = true ∨ ∃ module, event = .found module
  /-- Only events that end the run are announced. -/
  announces : ∀ event, run.coordinator = .announcing event → event.isLast = true
  /-- Workers and their results belong to a batch. -/
  emptyHanded : run.coordinator.isBusy = false → run.workers = [] ∧ run.results = []
  /-- Between two batches no references are left over. -/
  gathered : run.coordinator.isSettled = true → run.references = []
  /-- A batch is abandoned only if nobody listens. -/
  heeded : run.coordinator = .collecting .abandoned → run.listening = false

/-- A run that has been made is orderly. -/
theorem orderly_new (signals : Signals) (token : CancelToken) (seed : Path) (limit : Nat) :
    (Run.new signals token seed limit).1.Orderly where
  untouched _ := rfl
  listens := rfl
  asks asking := by rcases asking with asking | asking <;> cases asking
  joins _ joining := by cases joining
  tells _ member := by cases member
  announces _ announcing := by cases announcing
  emptyHanded _ := ⟨rfl, rfl⟩
  gathered _ := rfl
  heeded abandoned := by cases abandoned

/-- Events are taken in a run that is under way. -/
theorem Orderly.heard {run : Run} (orderly : run.Orderly) (draining : run.state = .draining) :
    run.listening = true := by
  rw [orderly.listens, draining]
  rfl

/-- A run is under way as long as the consumer looks and waits. -/
theorem Orderly.going {run : Run} (orderly : run.Orderly)
    (asking : run.consumer = .checking ∨ run.consumer = .receiving) :
    run.state.hasEnded = false := by
  rw [orderly.asks asking]
  rfl

/-- The state of a run that is said to be finished is one in which it has ended. -/
theorem Orderly.ended {run : Run} {state : RunState} {rest : List RunEvent}
    (orderly : run.Orderly) (events : run.events = .finished state :: rest) :
    state.hasEnded = true := by
  rcases orderly.tells (.finished state) (by simp [events]) with last | ⟨module, same⟩
  · exact last
  · cases same

/-- The coordinator of an orderly run takes no step before the first call. -/
theorem Orderly.not_idle {signals signals' : Signals} {run run' : Run} (orderly : run.Orderly)
    (moved : CoordinatorMoved signals run signals' run') : run.state ≠ .idle := by
  intro idle
  have unstarted : run.coordinator = .unstarted := by rw [orderly.untouched idle]
  cases moved <;> simp_all

/-- A step of the coordinator keeps a run orderly. -/
theorem Orderly.coordinator {signals signals' : Signals} {run run' : Run} (orderly : run.Orderly)
    (moved : CoordinatorMoved signals run signals' run') : run'.Orderly where
  untouched idle := absurd (by cases moved <;> exact idle) (orderly.not_idle moved)
  listens := by cases moved <;> exact orderly.listens
  asks := by cases moved <;> exact orderly.asks
  joins := by cases moved <;> exact orderly.joins
  tells event member := by
    cases moved with
    | sent module stage _ _ =>
      -- A module is added behind the events, and it is not the last one.
      rcases List.mem_append.mp member with old | new
      · exact orderly.tells event old
      · exact Or.inr ⟨module, List.mem_singleton.mp new⟩
    | announced last stage _ _ =>
      -- The last event is added only when nothing but it is left to be sent.
      rcases List.mem_append.mp member with old | new
      · exact orderly.tells event old
      · exact Or.inl (List.mem_singleton.mp new ▸ orderly.announces last stage)
    | _ => exact orderly.tells event member
  announces event announcing := by
    cases moved with
    -- What is announced is decided here.
    | roundCancelled _ _ | drained _ _ _ | closedCancelled _ _ => cases announcing; rfl
    | batchEnded outcome _ _ _ => cases outcome <;> cases announcing <;> rfl
    | passedOver _ _ _ _ _ _ => exact orderly.announces event announcing
    | _ => cases announcing
  emptyHanded := by
    have emptyHanded := orderly.emptyHanded
    cases moved <;> simp_all [CoordinatorStage.isBusy]
  gathered := by
    have gathered := orderly.gathered
    cases moved with
    | batchEnded outcome _ _ _ => cases outcome <;> intro settled <;> cases settled
    | _ => simp_all [CoordinatorStage.isSettled]
  heeded := by
    have heeded := orderly.heeded
    cases moved with
    | batchEnded outcome _ _ _ => cases outcome <;> intro abandoned <;> cases abandoned
    | _ => simp_all

/-- A step of a worker keeps a run orderly. -/
theorem Orderly.worker {sources : ModuleSources} {signals : Signals} {run run' : Run}
    (orderly : run.Orderly) (moved : WorkerMoved sources signals run run') : run'.Orderly := by
  -- There are no workers unless a batch is being read.
  have some : run.workers ≠ [] := by
    cases moved <;> simp_all
  have busy : run.coordinator.isBusy = true := by
    by_contra idle
    exact some (orderly.emptyHanded (by simpa using idle)).1
  have started : run.state ≠ .idle := by
    intro idle
    exact some (by rw [orderly.untouched idle])
  exact
    { untouched := fun idle => absurd (by cases moved <;> exact idle) started
      listens := by cases moved <;> exact orderly.listens
      asks := by cases moved <;> exact orderly.asks
      joins := by cases moved <;> exact orderly.joins
      tells := by cases moved <;> exact orderly.tells
      announces := by cases moved <;> exact orderly.announces
      emptyHanded := by cases moved <;> simp [busy]
      gathered := by cases moved <;> exact orderly.gathered
      heeded := by cases moved <;> exact orderly.heeded }

/-- A run that has ended for its consumer is orderly. -/
theorem Orderly.finish {run : Run} (orderly : run.Orderly) (signals : Signals) {state : RunState}
    {answer : Option ModuleOutcome} (ended : state.hasEnded = true)
    (frank : ∀ module, answer ≠ some (.ok module)) : (run.finish signals state answer).2.Orderly where
  untouched idle := by
    have same : state = .idle := idle
    cases same
    cases ended
  -- From now on nobody listens.
  listens := by simp [Run.finish, ended]
  asks asking := by rcases asking with asking | asking <;> cases asking
  joins other joining := by
    cases joining
    exact ⟨ended, frank⟩
  tells event member := by cases member
  announces := orderly.announces
  emptyHanded := orderly.emptyHanded
  gathered := orderly.gathered
  heeded _ := rfl

/-- A step of the consumer keeps a run orderly. -/
theorem Orderly.consumer {signals signals' : Signals} {run run' : Run}
    {answer : Option (Option ModuleOutcome)} (orderly : run.Orderly)
    (moved : ConsumerMoved signals run signals' run' answer) : run'.Orderly := by
  cases moved with
  -- Each of these ends the run with an answer that is no module.
  | cancelled stage _ => exact orderly.finish signals rfl (by simp)
  | failed error _ stage _ => exact orderly.finish signals rfl (by simp)
  | deserted stage _ _ => exact orderly.finish signals rfl (by simp)
  | finished state _ stage events =>
    -- The event says how the run ended.
    exact orderly.finish signals (orderly.ended events) (by simp)
  | waited stage _ =>
    -- The consumer waits for an event and not for an end.
    exact { orderly with
      untouched := fun idle => by cases (orderly.asks (Or.inl stage)).symm.trans idle
      asks := fun _ => orderly.asks (Or.inl stage)
      joins := fun _ joining => by cases joining }
  | timedOut stage _ _ =>
    exact { orderly with
      untouched := fun idle => by cases (orderly.asks (Or.inr stage)).symm.trans idle
      asks := fun _ => orderly.asks (Or.inr stage)
      joins := fun _ joining => by cases joining }
  | received module rest stage events =>
    exact { orderly with
      untouched := fun idle => by cases (orderly.asks (Or.inr stage)).symm.trans idle
      asks := fun asking => by rcases asking with asking | asking <;> cases asking
      joins := fun _ joining => by cases joining
      tells := fun event member => orderly.tells event (by simp [events, member]) }
  | answered outcome stage _ =>
    -- The run has ended before.
    exact { orderly with
      untouched := fun idle => by
        have ended := (orderly.joins outcome stage).1
        rw [idle] at ended
        cases ended
      asks := fun asking => by rcases asking with asking | asking <;> cases asking
      joins := fun _ joining => by cases joining }

/-- A call keeps a run orderly. -/
theorem Orderly.call {run : Run} (orderly : run.Orderly) : run.call.Orderly := by
  unfold Run.call
  split
  · rename_i idle
    -- The first call starts the coordinator with nothing but the seed in the queue.
    rw [orderly.untouched idle]
    exact
      { untouched := fun idle => by cases idle
        listens := rfl
        asks := fun _ => rfl
        joins := fun _ joining => by cases joining
        tells := fun _ member => by cases member
        announces := fun _ announcing => by cases announcing
        emptyHanded := fun _ => ⟨rfl, rfl⟩
        gathered := fun _ => rfl
        heeded := fun abandoned => by cases abandoned }
  · -- Later calls ask only, and the coordinator goes on.
    rename_i draining
    exact { orderly with
      untouched := fun idle => by cases draining.symm.trans idle
      asks := fun _ => draining
      joins := fun _ joining => by cases joining }
  -- After the end a call waits for the coordinator, and there is no module in its answer.
  all_goals
    rename_i ended
    exact { orderly with
      untouched := fun idle => by cases ended.symm.trans idle
      asks := fun asking => by rcases asking with asking | asking <;> cases asking
      joins := fun _ joining => by
        cases joining
        exact ⟨by rw [ended]; rfl, by simp⟩ }

end Run

/-- Every move keeps a run orderly. -/
theorem History.Moved.orderly {sources : ModuleSources} {before after : History} {move : Move}
    (moved : before.Moved sources move after) (orderly : before.run.Orderly) : after.run.Orderly := by
  cases moved with
  | coordinator moved => exact orderly.coordinator moved
  | worker _ moved => exact orderly.worker moved
  | consumer moved => exact orderly.consumer moved
  | called resting => exact orderly.call
  | cancelled token foreign => exact orderly

end ModuleScope
