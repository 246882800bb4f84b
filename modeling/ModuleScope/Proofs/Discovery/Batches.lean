import ModuleScope.Proofs.Discovery.Ledger
import ModuleScope.Proofs.Discovery.Signals

/-! What holds from batch to batch: nothing asked for is forgotten, and nothing else is looked for. -/

namespace ModuleScope

namespace CoordinatorStage

/-- The module whose references have been taken while the consumer has not been told of it. -/
def accepted : CoordinatorStage → List FoundModule
  | .sending module => [module]
  | _ => []

/-- Nothing has gone wrong, and there is more to do. -/
def isIntact : CoordinatorStage → Bool
  | .collecting .goOn => true
  | .collecting _ | .announcing _ | .exited => false
  | _ => true

end CoordinatorStage

namespace History

/-- The modules whose references have been taken. -/
def taken (history : History) : List FoundModule :=
  history.found ++ history.run.coordinator.accepted

/-- The queue, the references and the paths seen are what the modules found ask for. -/
structure Batches (seed : Path) (history : History) : Prop where
  /-- Only paths that are asked for are looked for. -/
  wanted : history.run.listening = true → ∀ path, path ∈ history.run.queue ∨
    path ∈ history.run.references ∨ path ∈ history.run.seen → Wanted seed history.taken path
  /-- Every path that is asked for is waiting, or it has been seen. -/
  covered : history.run.state ≠ .idle → history.run.coordinator.isIntact = true →
    ∀ path, Wanted seed history.taken path → path ∈ history.run.queue ∨
      path ∈ history.run.references ∨ path.IsAmong history.run.seen
  /-- Every path that has been seen was delivered or is due, unless a worker left early. -/
  complete : history.run.listening = true → history.run.coordinator.isIntact = true →
    history.run.coordinator.isSettled = true ∨ history.signals.isCancelled history.run.stop = false →
    history.run.seen.length ≤ history.delivered.length +
      (Run.pathsAt WorkerStage.isDue history.run.workers).length
  /-- The run itself has not stopped its workers. -/
  unstopped : history.run.listening = true → history.run.coordinator.isIntact = true →
    history.signals.isRaised history.run.stop.own = false

variable {seed : Path} {before : History} {signals : Signals} {run : Run}

/-- A step of the coordinator looks for nothing that is not asked for. -/
theorem Batches.wanted_coordinator (moved : Run.CoordinatorMoved before.signals before.run signals run)
    (orderly : before.run.Orderly) (batches : before.Batches seed) (heard : run.listening = true)
    (path : Path) (member : path ∈ run.queue ∨ path ∈ run.references ∨ path ∈ run.seen) :
    Wanted seed (taken { before with signals, run }) path := by
  have wanted := batches.wanted
  cases moved with
  -- These steps change neither queue nor references nor what has been seen.
  | roundCancelled stage _ | roundStarted stage _ | roundStopped stage _ | roundOpen stage _
  | weighedCancelled _ stage _ | weighed _ stage _ | refused _ stage | closedCancelled stage _
  | closed stage _ | closedStopped stage _ | taken _ _ stage _ | sent _ stage _ _ =>
    simpa [taken, found, CoordinatorStage.accepted, stage] using wanted heard path member
  | passedOver _ _ _ stage _ _ =>
    exact wanted heard path member
  | batchEnded outcome stage _ _ =>
    cases outcome <;>
      simpa [taken, found, CoordinatorStage.accepted, Run.afterBatch, stage]
        using wanted heard path member
  | abandoned _ _ deaf | unheard _ _ deaf =>
    -- Nobody listens any more.
    cases deaf.symm.trans heard
  | announced event stage _ _ =>
    -- The last event carries no module.
    have last := sentModules_last (orderly.announces event stage)
    simpa [taken, found, CoordinatorStage.accepted, last, stage] using wanted heard path member
  | drained stage _ _ =>
    rcases member with queued | rest
    · cases queued
    · simpa [taken, found, CoordinatorStage.accepted, stage] using wanted heard path (Or.inr rest)
  | skipped stage _ _ =>
    -- Paths leave the queue only.
    have before := wanted heard path (member.imp_left List.mem_of_mem_drop)
    simpa [taken, found, CoordinatorStage.accepted, stage] using before
  | dispatched stage _ =>
    -- What counts as seen now stood in the queue.
    have before : path ∈ before.run.queue ∨ path ∈ before.run.references ∨ path ∈ before.run.seen := by
      simp only [List.not_mem_nil, false_or, List.mem_append, List.mem_reverse] at member
      rcases member with queued | fresh | seen
      · exact Or.inl (List.mem_of_mem_drop queued)
      · exact Or.inl (Run.mem_queue_of_mem_batch fresh)
      · exact Or.inr (Or.inr seen)
    simpa [taken, found, CoordinatorStage.accepted, stage] using wanted heard path before
  | queued stage _ =>
    -- The references change their place only.
    have before : path ∈ before.run.queue ∨ path ∈ before.run.references ∨ path ∈ before.run.seen := by
      simpa [or_assoc] using member
    simpa [taken, found, CoordinatorStage.accepted, stage] using wanted heard path before
  | accepted module stage =>
    -- The references of the module are new, and so is the module itself.
    have grow : ∀ other ∈ before.taken, other ∈ before.found ++ [module] := by
      intro other known
      simp only [taken, CoordinatorStage.accepted, stage, List.append_nil] at known
      exact List.mem_append_left _ known
    simp only [List.mem_append] at member
    rcases member with queued | (old | new) | seen
    · exact (wanted heard path (Or.inl queued)).mono grow
    · exact (wanted heard path (Or.inr (Or.inl old))).mono grow
    · exact Or.inr ⟨module, by simp [taken, CoordinatorStage.accepted], new⟩
    · exact (wanted heard path (Or.inr (Or.inr seen))).mono grow

/-- A step of the coordinator forgets nothing that is asked for. -/
theorem Batches.covered_coordinator (moved : Run.CoordinatorMoved before.signals before.run signals run)
    (orderly : before.run.Orderly) (batches : before.Batches seed)
    (intact : run.coordinator.isIntact = true) (path : Path)
    (wanted : Wanted seed (taken { before with signals, run }) path) :
    path ∈ run.queue ∨ path ∈ run.references ∨ path.IsAmong run.seen := by
  have covered := batches.covered (orderly.not_idle moved)
  cases moved with
  | roundCancelled _ _ | roundStopped _ _ | weighedCancelled _ _ _ | refused _ _ | abandoned _ _ _
  | closedCancelled _ _ | closedStopped _ _ | drained _ _ _ | unheard _ _ _ | announced _ _ _ _ =>
    cases intact
  -- An outcome is passed over only when something went wrong.
  | passedOver outcome _ _ stage wrong _ => cases outcome <;> simp_all [CoordinatorStage.isIntact]
  | roundStarted stage _ | roundOpen stage _ | weighed _ stage _ | closed stage _
  | taken _ _ stage _ | sent _ stage _ _ =>
    refine covered (by simp [CoordinatorStage.isIntact, stage]) path ?_
    simpa [taken, found, CoordinatorStage.accepted, stage] using wanted
  | batchEnded outcome stage _ _ =>
    -- A batch that goes on adds nothing, and with any other end the search is over.
    cases outcome with
    | goOn =>
      refine covered (by simp [CoordinatorStage.isIntact, stage]) path ?_
      simpa [taken, found, CoordinatorStage.accepted, Run.afterBatch, stage] using wanted
    | faulted error => cases intact
    | cancelled => cases intact
    | abandoned => cases intact
  | skipped stage stale _ =>
    have before := covered (by simp [CoordinatorStage.isIntact, stage]) path
      (by simpa [taken, found, CoordinatorStage.accepted, stage] using wanted)
    -- What was taken from the queue has been seen.
    rcases before with queued | rest
    · have split := Run.batch_covers queued
      rw [stale] at split
      exact split.imp_right Or.inr
    · exact Or.inr rest
  | dispatched stage _ =>
    have before := covered (by simp [CoordinatorStage.isIntact, stage]) path
      (by simpa [taken, found, CoordinatorStage.accepted, stage] using wanted)
    rcases before with queued | left | seen
    · exact (Run.batch_covers queued).imp_right Or.inr
    · -- No references are left over when a batch is started.
      rw [orderly.gathered (by rw [stage]; rfl)] at left
      cases left
    · exact Or.inr (Or.inr (seen.mono fun _ member => List.mem_append_right _ member))
  | queued stage _ =>
    -- All references that were gathered go into the queue.
    have before := covered (by simp [CoordinatorStage.isIntact, stage]) path
      (by simpa [taken, found, CoordinatorStage.accepted, stage] using wanted)
    rcases before with queued | left | seen
    · exact Or.inl (List.mem_append_left _ queued)
    · exact Or.inl (List.mem_append_right _ left)
    · exact Or.inr (Or.inr seen)
  | accepted module stage =>
    -- Either the module that is new asks for the path, or one of the others does.
    have old : Wanted seed before.taken path ∨ path ∈ module.declared.references := by
      rcases wanted with first | ⟨other, member, listed⟩
      · exact Or.inl (Or.inl first)
      · rcases List.mem_append.mp member with known | new
        · exact Or.inl (Or.inr ⟨other, List.mem_append_left _ known, listed⟩)
        · cases List.mem_singleton.mp new
          exact Or.inr listed
    rcases old with old | listed
    · rcases covered (by simp [CoordinatorStage.isIntact, stage]) path old with queued | left | seen
      · exact Or.inl queued
      · exact Or.inr (Or.inl (List.mem_append_left _ left))
      · exact Or.inr (Or.inr seen)
    · exact Or.inr (Or.inl (List.mem_append_right _ listed))

/-- A step of the coordinator loses no path that has been seen. -/
theorem Batches.complete_coordinator
    (moved : Run.CoordinatorMoved before.signals before.run signals run)
    (orderly : before.run.Orderly) (batches : before.Batches seed) (heard : run.listening = true)
    (intact : run.coordinator.isIntact = true)
    (going : run.coordinator.isSettled = true ∨ signals.isCancelled run.stop = false) :
    run.seen.length ≤ (delivered { before with signals, run }).length +
      (Run.pathsAt WorkerStage.isDue run.workers).length := by
  have complete := batches.complete
  have empty := orderly.emptyHanded
  cases moved with
  | roundCancelled _ _ | roundStopped _ _ | weighedCancelled _ _ _ | refused _ _ | abandoned _ _ _
  | closedCancelled _ _ | closedStopped _ _ | drained _ _ _ | unheard _ _ _ | announced _ _ _ _ =>
    cases intact
  | passedOver outcome _ _ stage wrong _ => cases outcome <;> simp_all [CoordinatorStage.isIntact]
  | roundStarted stage _ | roundOpen stage _ =>
    -- Between batches nothing is in hand.
    have before := complete heard (by rw [stage]; rfl) (Or.inl (by rw [stage]; rfl))
    simpa [delivered, found, CoordinatorStage.inHand, stage] using before
  | weighed _ stage _ | closed stage _ | accepted _ stage | sent _ stage _ _ =>
    have before := complete heard (by rw [stage]; rfl)
      (going.imp_left fun settled => by cases settled)
    simpa [delivered, found, CoordinatorStage.inHand, stage, Nat.add_assoc] using before
  | taken _ _ stage results =>
    -- The module goes from the results into the coordinator's hand.
    have before := complete heard (by rw [stage]; rfl)
      (going.imp_left fun settled => by cases settled)
    simpa [delivered, found, CoordinatorStage.inHand, stage, results, Nat.add_assoc, Nat.add_comm]
      using before
  | batchEnded outcome stage results idle =>
    cases outcome with
    | goOn =>
      have before := complete heard (by rw [stage]; rfl)
        (going.imp_left fun settled => by cases settled)
      -- Nothing was due any more.
      rw [Run.pathsAt_idle idle] at before
      simpa [delivered, found, CoordinatorStage.inHand, Run.afterBatch, stage, results] using before
    | faulted error => cases intact
    | cancelled => cases intact
    | abandoned => cases intact
  | queued stage live =>
    -- The run has not been stopped, as it would not have come here.
    have before := complete heard (by rw [stage]; rfl) (Or.inr live)
    simpa [delivered, found, CoordinatorStage.inHand, stage] using before
  | skipped stage stale _ =>
    have before := complete heard (by rw [stage]; rfl) (Or.inl (by rw [stage]; rfl))
    simpa [delivered, found, CoordinatorStage.inHand, stage] using before
  | dispatched stage _ =>
    have before := complete heard (by rw [stage]; rfl) (Or.inl (by rw [stage]; rfl))
    rw [(empty (by rw [stage]; rfl)).1] at before
    -- The batch is due, and it is all that is new among the paths seen.
    simp only [delivered, found, CoordinatorStage.inHand, stage, List.append_nil, List.length_append,
      List.length_map, Run.pathsAt_nil, List.length_nil, Nat.add_zero, List.length_reverse,
      Run.pathsAt_started WorkerStage.isDue _ rfl] at before ⊢
    omega

/-- A step of the coordinator stops the workers only when something went wrong. -/
theorem Batches.unstopped_coordinator
    (moved : Run.CoordinatorMoved before.signals before.run signals run)
    (batches : before.Batches seed) (heard : run.listening = true)
    (intact : run.coordinator.isIntact = true) : signals.isRaised run.stop.own = false := by
  have unstopped := batches.unstopped
  cases moved with
  -- These steps end the search, so nothing is to be shown.
  | roundCancelled _ _ | roundStopped _ _ | weighedCancelled _ _ _ | refused _ _ | abandoned _ _ _
  | closedCancelled _ _ | closedStopped _ _ | drained _ _ _ | unheard _ _ _ | announced _ _ _ _ =>
    cases intact
  | passedOver outcome _ _ stage wrong _ => exact unstopped heard intact
  | batchEnded outcome stage _ _ =>
    cases outcome with
    | goOn => exact unstopped heard (by rw [stage]; rfl)
    | faulted error => cases intact
    | cancelled => cases intact
    | abandoned => cases intact
  -- All other steps leave the signals alone.
  | roundStarted stage _ | roundOpen stage _ | weighed _ stage _ | closed stage _
  | accepted _ stage | sent _ stage _ _ | taken _ _ stage _ | queued stage _ | skipped stage _ _
  | dispatched stage _ =>
    exact unstopped heard (by rw [stage]; rfl)

/-- A step of a worker that leaves early needs a stop signal, and every other one loses nothing. -/
theorem Batches.worker {sources : ModuleSources}
    (moved : Run.WorkerMoved sources before.signals before.run run)
    (orderly : before.run.Orderly) (batches : before.Batches seed) :
    Batches seed { before with run } := by
  have complete := batches.complete
  -- There are workers only in a batch, and a batch is not settled.
  have busy : before.run.coordinator.isSettled = false := by
    have some : before.run.workers ≠ [] := by cases moved <;> simp_all
    have emptyHanded := orderly.emptyHanded
    cases stage : before.run.coordinator <;> simp_all [CoordinatorStage.isSettled, CoordinatorStage.isBusy]
  cases moved with
  | asked front back path workers _ | admitted front back path _ workers _
  | timedOut front back path workers _ | started front back path workers _
  | left front back path workers =>
    exact ⟨batches.wanted, batches.covered, fun heard intact going => by
      simpa [delivered, found, workers, WorkerStage.isDue] using complete heard intact going,
      batches.unstopped⟩
  | turnedAway front back path workers stopped | calledOff front back path workers stopped =>
    refine ⟨batches.wanted, batches.covered, fun heard intact going => ?_, batches.unstopped⟩
    rcases going with settled | going
    · cases busy.symm.trans settled
    · cases stopped.symm.trans going
  | ended front back path workers =>
    -- The path was due and is now among the results.
    refine ⟨batches.wanted, batches.covered, fun heard intact going => ?_, batches.unstopped⟩
    have before := complete heard intact going
    simp [delivered, found, workers, WorkerStage.isDue] at before ⊢
    omega

/-- A step of the consumer keeps what holds from batch to batch. -/
theorem Batches.consumer {answer : Option (Option ModuleOutcome)}
    (moved : Run.ConsumerMoved before.signals before.run signals run answer)
    (orderly : before.run.Orderly) (batches : before.Batches seed) :
    Batches seed { before with signals, run, answers := before.answers ++ answer.toList } := by
  cases moved with
  | cancelled stage _ | failed _ _ stage _ | finished _ _ stage _ | deserted stage _ _ =>
    -- The consumer leaves, so nobody listens any more.
    have draining : before.run.state = .draining := orderly.asks (by simp [stage])
    exact
      { wanted := fun heard => by cases heard
        complete := fun heard => by cases heard
        unstopped := fun heard => by cases heard
        covered := fun _ intact path wanted => by
          -- The modules in events that are lost ask for paths as well.
          refine batches.covered (by simp [draining]) intact path (wanted.mono fun module member => ?_)
          simp only [taken, found, Run.finish, Option.toList, List.append_nil, sentModules_nil,
            List.mem_append] at member ⊢
          exact member.imp_left Or.inl }
  | waited stage _ | timedOut stage _ _ =>
    -- Nothing was sent or answered.
    exact ⟨by simpa [taken, found] using batches.wanted, by simpa [taken, found] using batches.covered,
      by simpa [delivered, found] using batches.complete, batches.unstopped⟩
  | received module rest stage events =>
    -- The module moves from the events to the answers.
    exact ⟨by simpa [taken, found, events, answeredModules] using batches.wanted,
      by simpa [taken, found, events, answeredModules] using batches.covered,
      by simpa [delivered, found, events, answeredModules] using batches.complete, batches.unstopped⟩
  | answered outcome stage gone =>
    -- The last answer is no module.
    have none := answeredModules_none (orderly.joins outcome stage).2
    exact ⟨by simpa [taken, found, none] using batches.wanted,
      by simpa [taken, found, none] using batches.covered,
      by simpa [delivered, found, none] using batches.complete, batches.unstopped⟩

/-- A call keeps what holds from batch to batch: at first only the seed is asked for. -/
theorem Batches.call (orderly : before.run.Orderly) (silent : before.run.state = .idle → before.answers = [])
    (batches : before.Batches before.run.seed) :
    Batches before.run.seed { before with run := before.run.call } := by
  unfold Run.call
  split
  · rename_i idle
    -- A run that is idle is as it was made, so only the first call adds something: the seed.
    have untouched := orderly.untouched idle
    have stage : before.run.coordinator = .unstarted := by rw [untouched]
    have seen : before.run.seen = [] := by rw [untouched]
    have references : before.run.references = [] := by rw [untouched]
    have events : before.run.events = [] := by rw [untouched]
    exact
      { wanted := fun _ path member => by
          simp only [seen, references, List.mem_singleton, List.not_mem_nil, or_false] at member
          exact Or.inl member
        covered := fun _ _ path wanted => by
          -- No module has been found that could ask for more.
          rcases wanted with rfl | ⟨module, member, _⟩
          · exact Or.inl (List.mem_singleton.mpr rfl)
          · simp [taken, found, CoordinatorStage.accepted, answeredModules, silent idle, events] at member
        complete := fun _ _ _ => by simp [seen]
        unstopped := fun heard _ => batches.unstopped heard (by rw [stage]; rfl) }
  -- Later calls change the consumer only.
  all_goals
    rename_i state
    exact ⟨batches.wanted, batches.covered, batches.complete, batches.unstopped⟩

/-- Cancelling a token that is not the stop token keeps what holds from batch to batch. -/
theorem Batches.cancel {token : CancelToken} {straddled : Bool}
    (foreign : token.own ≠ before.run.stop.own) (batches : before.Batches seed) :
    Batches seed { before with signals := before.signals.cancel token, straddled } where
  wanted := batches.wanted
  covered := batches.covered
  complete heard intact going := by
    -- What is not cancelled now was not cancelled before.
    refine batches.complete heard intact (going.imp_right fun live => ?_)
    by_contra stopped
    have stays := Signals.isCancelled_cancel_of (by simpa using stopped) token
    cases stays.symm.trans live
  unstopped heard intact := by
    rw [Signals.cancel, Signals.isRaised_raise_ne foreign]
    exact batches.unstopped heard intact

/-- Every move keeps what holds from batch to batch. -/
theorem Batches.step {sources : ModuleSources} {after : History} {move : Move}
    (moved : before.Moved sources move after)
    (orderly : before.run.Orderly) (silent : before.run.state = .idle → before.answers = [])
    (batches : before.Batches before.run.seed) : after.Batches before.run.seed := by
  cases moved with
  | coordinator moved =>
    exact ⟨batches.wanted_coordinator moved orderly, fun _ => batches.covered_coordinator moved orderly,
      batches.complete_coordinator moved orderly, batches.unstopped_coordinator moved⟩
  | worker _ moved => exact batches.worker moved orderly
  | consumer moved => exact batches.consumer moved orderly
  | called resting => exact batches.call orderly silent
  | cancelled token foreign => exact batches.cancel foreign

end History

end ModuleScope
