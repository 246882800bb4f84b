import ModuleScope.Proofs.Discovery.BreadthFirst
import ModuleScope.Proofs.Discovery.Verdict

/-! A run that reads one module at a time yields what a breadth-first search visits, in the order of its visits. -/

namespace ModuleScope

/-- The references that an outcome brings. -/
@[simp] def outcomeReferences : ModuleOutcome → List Path
  | .ok module => module.declared.references
  | .error _ => []

/-- The outcomes up to the first error, which is the last one then. -/
def throughError : List ModuleOutcome → List ModuleOutcome
  | [] => []
  | .ok module :: rest => .ok module :: throughError rest
  | .error error :: _ => [.error error]

/-- Nothing is cut off from modules alone. -/
theorem throughError_modules (modules : List FoundModule) : throughError (modules.map .ok) = modules.map .ok := by
  induction modules with
  | nil => rfl
  | cons module rest ih => simp [throughError, ih]

/-- Everything after an error is cut off. -/
theorem throughError_error (modules : List FoundModule) (error : ModuleFailure) (rest : List ModuleOutcome) :
    throughError (modules.map .ok ++ .error error :: rest) = modules.map .ok ++ [.error error] := by
  induction modules with
  | nil => rfl
  | cons module modules ih => simp [throughError, ih]

/-- More outcomes are cut off no earlier. -/
theorem throughError_append (first second : List ModuleOutcome) :
    throughError first <+: throughError (first ++ second) := by
  induction first with
  | nil => exact List.nil_prefix
  | cons outcome rest ih =>
    cases outcome with
    -- Only an error cuts anything off.
    | ok module => exact List.cons_prefix_cons.mpr ⟨rfl, ih⟩
    | error error => exact List.prefix_refl _

namespace ModuleSources

/-- The references of a path are those that its outcome brings. -/
theorem listed_references (sources : ModuleSources) (path : Path) :
    sources.references.listed path = outcomeReferences (sources.describe path) := by
  unfold ReferenceAnswers.listed references outcomeReferences
  cases sources.describe path <;> rfl

/-- If the reader answers by path, the references do not depend on how a path is written wherever they are known. -/
theorem ByPath.consistent {sources : ModuleSources} (byPath : sources.ByPath) : sources.references.Consistent := by
  intro left right references references' same answered answered' reference listed
  cases described : sources.describe left with
  | error error => simp [ModuleSources.references, described, Except.map] at answered
  | ok module =>
    cases described' : sources.describe right with
    | error error => simp [ModuleSources.references, described', Except.map] at answered'
    | ok module' =>
      -- Both spellings can be read, so the same is read at both.
      have read := byPath.read left right _ same (describe_ok described).2.1
      rw [(describe_ok described').2.1, Except.ok.injEq] at read
      simp only [ModuleSources.references, described, described', Except.map, Except.ok.injEq] at answered answered'
      rw [← answered] at listed
      rw [← answered', read]
      exact ⟨reference, listed, Path.same_refl reference⟩

/-- What so many visits of a breadth-first search from the seed bring, up to the first path that cannot be read. -/
def breadthFirst (sources : ModuleSources) (seed : Path) (visits : Nat) : List ModuleOutcome :=
  throughError ((Search.after sources.references seed visits).visited.map sources.describe)

/-- More visits bring more at the end. -/
theorem breadthFirst_mono {sources : ModuleSources} {seed : Path} {visits more : Nat} (fewer : visits ≤ more) :
    sources.breadthFirst seed visits <+: sources.breadthFirst seed more := by
  obtain ⟨rest, whole⟩ := @Search.visited_mono sources.references seed visits more fewer
  rw [breadthFirst, breadthFirst, ← whole, List.map_append]
  exact throughError_append _ _

end ModuleSources

namespace CoordinatorStage

/-- The outcome that the coordinator has taken and has not passed on. -/
@[simp] def held : CoordinatorStage → List ModuleOutcome
  | .weighing result | .accepting result => [result]
  | .sending module => [.ok module]
  | .collecting (.faulted error) => [.error error]
  | .announcing event => event.answer.toList
  | _ => []

/-- The outcome that the coordinator has taken without taking its references. -/
@[simp] def unaccepted : CoordinatorStage → List ModuleOutcome
  | .weighing result | .accepting result => [result]
  | _ => []

end CoordinatorStage

/-- What the consumer is about to be answered. -/
@[simp] def ConsumerStage.promised : ConsumerStage → List ModuleOutcome
  | .joining answer => answer.toList
  | _ => []

namespace Run

/-- The outcomes that have come of the workers or are still to come of them. -/
def outcomes (sources : ModuleSources) (run : Run) : List ModuleOutcome :=
  run.results ++ (pathsAt WorkerStage.isDue run.workers).map sources.describe

/-- Paths that will join the queue after the batch. -/
def awaited (sources : ModuleSources) (run : Run) : List Path :=
  run.references ++ (run.coordinator.unaccepted ++ run.outcomes sources).flatMap outcomeReferences

/-- Selecting from several paths goes on where selecting from the first ones has ended. -/
theorem selectUnseen_append (seen first second : List Path) :
    (selectUnseen seen (first ++ second)).1 =
      (selectUnseen seen first).1 ++ (selectUnseen ((selectUnseen seen first).1.reverse ++ seen) second).1 := by
  induction first generalizing seen with
  | nil => rfl
  | cons path rest ih =>
    simp only [List.cons_append, selectUnseen]
    split
    · exact ih seen
    · -- The path counts as seen for what comes after it.
      simp [ih (path :: seen)]

/-- Paths that have all been seen may be taken from the queue without a difference to what is selected from it. -/
theorem selectUnseen_stale {run : Run} (stale : run.batch = []) (more : List Path) :
    (selectUnseen run.seen (run.queue.drop run.limit ++ more)).1 =
      (selectUnseen run.seen (run.queue ++ more)).1 := by
  have whole := selectUnseen_append run.seen (run.queue.take run.limit) (run.queue.drop run.limit ++ more)
  rw [← batch, stale, ← List.append_assoc, List.take_append_drop] at whole
  simpa using whole.symm

/-- A batch of a run that reads one module at a time is the first path of the queue. -/
theorem batch_of_single {run : Run} (single : run.limit = 1) (fresh : run.batch ≠ []) :
    ∃ path rest, run.queue = path :: rest ∧ run.batch = [path] ∧ ∀ more,
      (selectUnseen run.seen (path :: more)).1 = path :: (selectUnseen (path :: run.seen) more).1 := by
  unfold batch at *
  rw [single] at *
  cases queue : run.queue with
  -- An empty queue gives no batch.
  | nil => simp [queue, selectUnseen] at fresh
  | cons path rest =>
    refine ⟨path, rest, rfl, ?_⟩
    simp only [queue, List.take_succ_cons, List.take_zero, selectUnseen] at fresh ⊢
    -- The first path is unseen, as the batch would be empty otherwise.
    split at fresh
    · exact absurd rfl fresh
    · rename_i unseen
      simp [unseen]

end Run

namespace History

/-- What calls have been answered with, as far as that is something. -/
def yielded (history : History) : List ModuleOutcome := history.answers.filterMap id

/-- All outcomes on their way to the answers, the one that is furthest on its way first. -/
def pipeline (sources : ModuleSources) (history : History) : List ModuleOutcome :=
  history.yielded ++ history.run.consumer.promised ++ history.run.events.filterMap RunEvent.answer ++
    history.run.coordinator.held ++ history.run.outcomes sources

/-- A run that reads one module at a time follows a breadth-first search. -/
structure InSequence (sources : ModuleSources) (history : History) : Prop where
  /-- There is one outcome at most between the queue and the events. -/
  narrow : (history.run.coordinator.held ++ history.run.outcomes sources).length ≤ 1
  /-- The coordinator is gone before the consumer stops listening. -/
  quiet : history.run.listening = false → history.run.coordinator = .exited
  /-- Outcomes come in the order in which the paths were seen, and none is lost. -/
  passed : history.pipeline sources = history.run.seen.reverse.map sources.describe
  /-- The paths seen are those that the search has visited, and the others in the queue are those that it will visit. -/
  searched : history.run.state ≠ .idle →
    Search.after sources.references history.run.seed history.run.seen.length =
      ⟨history.run.seen.reverse,
        (Run.selectUnseen history.run.seen (history.run.queue ++ history.run.awaited sources)).1⟩

variable {sources : ModuleSources} {before after : History} {signals : Signals} {run : Run} {move : Move}

/-- A token that is not cancelled after a move was not cancelled before it. -/
theorem Moved.live (moved : before.Moved sources move after)
    (live : after.signals.isCancelled after.run.token = false) :
    before.signals.isCancelled before.run.token = false := by
  by_contra cancelled
  rw [Bool.not_eq_false] at cancelled
  rw [moved.sameRun.token] at live
  -- Whatever signal a move raises, a token that was cancelled stays so.
  rcases moved.signals with still | stopped | ⟨other, _, raised⟩
  · rw [still, cancelled] at live
    cases live
  · rw [stopped, Signals.isCancelled_cancel_of cancelled] at live
    cases live
  · rw [raised, Signals.isCancelled_cancel_of cancelled] at live
    cases live

/-- The consumer listens as long as the coordinator is there. -/
theorem InSequence.heard (sequence : before.InSequence sources) (there : before.run.coordinator ≠ .exited) :
    before.run.listening = true := by
  by_contra deaf
  exact there (sequence.quiet (by simpa using deaf))

/-- An uncancelled run takes the results of a batch as long as there are any. -/
theorem InSequence.goOn {outcome : BatchStatus} (sound : before.Sound sources)
    (live : before.signals.isCancelled before.run.token = false) (sequence : before.InSequence sources)
    (stage : before.run.coordinator = .collecting outcome) (some : before.run.outcomes sources ≠ []) :
    outcome = .goOn := by
  have heard := sequence.heard (by simp [stage])
  cases outcome with
  | goOn => rfl
  | faulted error =>
    -- The error is the only outcome of the batch.
    have narrow := sequence.narrow
    have more := List.length_pos_iff.mpr some
    simp only [stage, CoordinatorStage.held, List.length_append, List.length_singleton] at narrow
    omega
  | cancelled =>
    -- The coordinator would have seen the token cancelled.
    have ending := sound.endings.bound heard (.finished .cancelled) (by rw [stage]; rfl)
    cases ending with
    | cancelled observed => cases live.symm.trans observed
  | abandoned => cases (sound.orderly.heeded stage).symm.trans heard

/-- No worker of an uncancelled run is told to stop before it has read its module. -/
theorem InSequence.going (sound : before.Sound sources)
    (live : before.signals.isCancelled before.run.token = false) (sequence : before.InSequence sources)
    (due : Run.pathsAt WorkerStage.isDue before.run.workers ≠ []) :
    before.signals.isCancelled before.run.stop = false := by
  have some : before.run.outcomes sources ≠ [] := by simp [Run.outcomes, due]
  -- An outcome is due only while a batch is being read.
  have busy : before.run.coordinator.isBusy = true := by
    by_contra idle
    have none := (sound.orderly.emptyHanded (by simpa using idle)).1
    simp [none] at due
  have heard := sequence.heard (by rintro gone; simp [gone, CoordinatorStage.isBusy] at busy)
  apply sound.endings.going sound.batches heard ?_ live
  cases stage : before.run.coordinator with
  | collecting outcome =>
    cases sequence.goOn sound live stage some
    rfl
  | weighing | accepting | sending => rfl
  | _ => simp [stage, CoordinatorStage.isBusy] at busy

/-- What is known of a sequence depends on the outcomes under way and on the paths that are seen or waited for. -/
theorem InSequence.still (sequence : before.InSequence sources)
    (narrow : (after.run.coordinator.held ++ after.run.outcomes sources).length ≤
      (before.run.coordinator.held ++ before.run.outcomes sources).length)
    (quiet : after.run.listening = false → after.run.coordinator = .exited)
    (pipeline : after.pipeline sources = before.pipeline sources) (seen : after.run.seen = before.run.seen)
    (seed : after.run.seed = before.run.seed) (started : after.run.state ≠ .idle → before.run.state ≠ .idle)
    (waiting : (Run.selectUnseen before.run.seen (after.run.queue ++ after.run.awaited sources)).1 =
      (Run.selectUnseen before.run.seen (before.run.queue ++ before.run.awaited sources)).1) :
    after.InSequence sources where
  narrow := Nat.le_trans narrow sequence.narrow
  quiet := quiet
  passed := by rw [pipeline, seen, sequence.passed]
  searched going := by rw [seen, seed, waiting, sequence.searched (started going)]

/-- The path that is handed to a worker is the one that the search visits next. -/
theorem InSequence.dispatched (stage : before.run.coordinator = .dispatching) (fresh : before.run.batch ≠ [])
    (sound : before.Sound sources) (single : before.run.limit = 1) (sequence : before.InSequence sources) :
    InSequence sources { before with
      run := { before.run with
        queue := before.run.queue.drop before.run.limit
        seen := before.run.batch.reverse ++ before.run.seen
        pops := before.run.pops + (before.run.queue.take before.run.limit).length
        workers := before.run.batch.map fun path => ⟨path, .arriving⟩
        references := []
        coordinator := .collecting .goOn } } := by
  have moved : Run.CoordinatorMoved before.signals before.run before.signals _ := .dispatched stage fresh
  have heard := sequence.heard (by simp [stage])
  -- Between two batches nothing is under way but the queue.
  have none := sound.orderly.emptyHanded (by rw [stage]; rfl)
  have gathered := sound.orderly.gathered (by rw [stage]; rfl)
  obtain ⟨path, rest, queue, batch, selected⟩ := Run.batch_of_single single fresh
  have searched := sequence.searched (sound.orderly.not_idle moved)
  simp only [Run.awaited, Run.outcomes, stage, CoordinatorStage.unaccepted, gathered, none.1, none.2,
    Run.pathsAt_nil, List.map_nil, List.append_nil, List.flatMap_nil, queue, selected] at searched
  refine ⟨?_, ?_, ?_, fun _ => ?_⟩
  · simp [Run.outcomes, none, batch, WorkerStage.isDue]
  · simp [heard]
  · have more : before.pipeline sources ++ [sources.describe path] =
        (before.run.batch.reverse ++ before.run.seen).reverse.map sources.describe := by
      rw [sequence.passed, batch]
      simp
    rw [← more]
    simp [pipeline, yielded, Run.outcomes, none, stage, batch, WorkerStage.isDue]
  · -- The search has the same path at the head of its queue.
    simp only [batch, List.length_cons, List.length_append, List.reverse_singleton, List.length_nil]
    rw [show 0 + 1 + before.run.seen.length = before.run.seen.length + 1 by omega, Search.after, searched,
      Search.visit_cons rfl]
    simp [Search.met, single, queue, Run.awaited, Run.outcomes, none, WorkerStage.isDue, Run.selectUnseen_append,
      sources.listed_references]

/-- A step of the coordinator hands one path to a worker, or it passes on what came of that. -/
theorem InSequence.coordinator (moved : Run.CoordinatorMoved before.signals before.run signals run)
    (sound : before.Sound sources) (single : before.run.limit = 1)
    (live : before.signals.isCancelled before.run.token = false) (sequence : before.InSequence sources) :
    InSequence sources { before with signals, run } := by
  have heard := sequence.heard moved.active
  have emptyHanded := sound.orderly.emptyHanded
  -- Most steps only move an outcome or a path on to the next place.
  cases moved with
  | roundCancelled _ cancelled | weighedCancelled _ _ cancelled | closedCancelled _ cancelled =>
    -- The token is not cancelled, and somebody listens.
    cases live.symm.trans cancelled
  | abandoned _ _ deaf | unheard _ _ deaf => cases heard.symm.trans deaf
  | roundStarted stage _ | roundOpen stage _ | closed stage _ | weighed _ stage _ | roundStopped stage _
  | closedStopped stage _ =>
    apply sequence.still <;> simp [pipeline, Run.awaited, Run.outcomes, yielded, stage, heard]
  | taken result rest stage results =>
    apply sequence.still <;> simp [pipeline, Run.awaited, Run.outcomes, yielded, stage, heard, results]
  | passedOver outcome result rest stage wrong results =>
    -- Nothing has gone wrong while results are left.
    exact absurd (sequence.goOn sound live stage (by simp [Run.outcomes, results])) wrong
  | accepted _ stage | refused _ stage =>
    apply sequence.still <;> simp [pipeline, Run.awaited, Run.outcomes, yielded, stage, heard]
  | sent module stage _ _ =>
    apply sequence.still <;> simp [pipeline, Run.awaited, Run.outcomes, yielded, stage, heard, RunEvent.answer]
  | announced event stage _ _ =>
    cases event <;> apply sequence.still <;> simp [pipeline, Run.awaited, Run.outcomes, yielded, stage, RunEvent.answer]
  | batchEnded outcome stage results idle =>
    have none := Run.pathsAt_idle idle
    cases outcome with
    | abandoned => cases (sound.orderly.heeded stage).symm.trans heard
    | cancelled =>
      cases sound.endings.bound heard (.finished .cancelled) (by rw [stage]; rfl) with
      | cancelled observed => cases live.symm.trans observed
    | goOn | faulted error =>
      apply sequence.still <;>
        simp [pipeline, Run.awaited, Run.outcomes, yielded, stage, heard, results, none, Run.afterBatch,
          RunEvent.answer]
  | queued stage _ =>
    have none := emptyHanded (by rw [stage]; rfl)
    apply sequence.still <;> simp [pipeline, Run.awaited, Run.outcomes, yielded, stage, heard, none]
  | drained stage stale empty =>
    -- What is left of the queue has been seen, so the search has nothing left either.
    have waiting := fun more => Run.selectUnseen_stale stale more
    rw [empty] at waiting
    apply sequence.still <;>
      simp [pipeline, Run.awaited, Run.outcomes, yielded, stage, heard, RunEvent.answer, ← waiting]
  | skipped stage stale _ =>
    -- A path that was taken and had been seen is one that the search skips, too.
    apply sequence.still <;>
      simp [pipeline, Run.awaited, Run.outcomes, yielded, stage, heard, Run.selectUnseen_stale stale]
  | dispatched stage fresh => exact sequence.dispatched stage fresh sound single

/-- A step of a worker passes on what was read. -/
theorem InSequence.worker (moved : Run.WorkerMoved sources before.signals before.run run) (sound : before.Sound sources)
    (live : before.signals.isCancelled before.run.token = false) (sequence : before.InSequence sources) :
    InSequence sources { before with run } := by
  have quiet := sequence.quiet
  cases moved with
  | turnedAway front back path workers stopped | calledOff front back path workers stopped =>
    -- A worker that has yet to read is not stopped.
    have due : Run.pathsAt WorkerStage.isDue before.run.workers ≠ [] := by simp [workers, WorkerStage.isDue]
    cases (sequence.going sound live due).symm.trans stopped
  -- Only the stage of a worker changes, and it stays due or done.
  | asked front back path workers _ | admitted front back path _ workers _ | timedOut front back path workers _
  | started front back path workers _ | left front back path workers =>
    apply sequence.still <;>
      first
      | exact quiet
      | simp [pipeline, yielded, Run.awaited, Run.outcomes, workers, WorkerStage.isDue]
  | ended front back path workers =>
    -- No other worker has anything to read.
    have narrow := sequence.narrow
    simp only [Run.outcomes, workers, Run.pathsAt_append, Run.pathsAt_cons, WorkerStage.isDue, if_true,
      List.map_append, List.map_cons, List.length_append, List.length_cons, List.length_map] at narrow
    have alone : Run.pathsAt WorkerStage.isDue front = [] ∧ Run.pathsAt WorkerStage.isDue back = [] :=
      ⟨List.length_eq_zero_iff.mp (by omega), List.length_eq_zero_iff.mp (by omega)⟩
    apply sequence.still <;>
      first
      | exact quiet
      | simp [pipeline, yielded, Run.awaited, Run.outcomes, workers, WorkerStage.isDue, alone]

/-- A step of the consumer passes on what it was told. -/
theorem InSequence.consumer {answer : Option (Option ModuleOutcome)}
    (moved : Run.ConsumerMoved before.signals before.run signals run answer) (sound : before.Sound sources)
    (live : before.signals.isCancelled before.run.token = false) (sequence : before.InSequence sources) :
    InSequence sources { before with signals, run, answers := before.answers ++ answer.toList } := by
  have quiet := sequence.quiet
  cases moved with
  | cancelled _ cancelled => cases live.symm.trans cancelled
  | deserted stage events gone =>
    have heard := sound.orderly.heard (sound.orderly.asks (Or.inr stage))
    -- The coordinator has sent an event before it went away, unless the run was cancelled.
    rcases sound.endings.last heard gone with ⟨_, sent, _⟩ | ⟨_, _, cancelled⟩
    · simp [events] at sent
    · cases live.symm.trans cancelled
  | waited stage _ | timedOut stage _ _ =>
    apply sequence.still <;>
      first
      | exact quiet
      | simp [pipeline, yielded, Run.awaited, Run.outcomes, stage]
  | received module rest stage events =>
    -- The module moves from the events to the answers.
    apply sequence.still <;>
      first
      | exact quiet
      | simp [pipeline, yielded, Run.awaited, Run.outcomes, stage, events, RunEvent.answer]
  | failed error rest stage events =>
    -- The last event moves there in the same way, and nothing is left behind it.
    have draining := sound.orderly.asks (Or.inr stage)
    obtain ⟨gone, rfl, _⟩ := sound.endings.parting (sound.orderly.heard draining) events rfl
    apply sequence.still <;>
      simp [pipeline, yielded, Run.awaited, Run.outcomes, Run.finish, stage, events, RunEvent.answer, gone, draining]
  | finished state rest stage events =>
    have draining := sound.orderly.asks (Or.inr stage)
    have ended := sound.orderly.ended events
    obtain ⟨gone, rfl, _⟩ := sound.endings.parting (sound.orderly.heard draining) events ended
    apply sequence.still <;>
      simp [pipeline, yielded, Run.awaited, Run.outcomes, Run.finish, stage, events, RunEvent.answer, gone, draining]
  | answered answer stage gone =>
    -- The last answer was in hand already.
    cases answer <;> apply sequence.still <;>
      first
      | exact quiet
      | simp [pipeline, yielded, Run.awaited, Run.outcomes, stage]

/-- A call starts the search if it is the first one. -/
theorem InSequence.call (resting : before.run.consumer = .resting) (orderly : before.run.Orderly)
    (sequence : before.InSequence sources) : InSequence sources { before with run := before.run.call } := by
  have quiet := sequence.quiet
  unfold Run.call
  split
  · -- Before the first call there is nothing, and then there is the seed on both sides.
    rename_i idle
    have passed := sequence.passed
    rw [pipeline, orderly.untouched idle] at passed
    rw [orderly.untouched idle]
    refine ⟨by simp [Run.outcomes], by simp, ?_, fun _ => rfl⟩
    simpa [pipeline, Run.outcomes, yielded] using passed
  all_goals
    apply sequence.still <;>
      first
      | exact quiet
      | simp_all [pipeline, yielded, Run.awaited, Run.outcomes]

/-- As long as a run that reads one module at a time is not cancelled, it follows the search. -/
theorem InSequence.step (moved : before.Moved sources move after) (sound : before.Sound sources)
    (single : before.run.limit = 1) (live : before.signals.isCancelled before.run.token = false)
    (sequence : before.InSequence sources) : after.InSequence sources := by
  cases moved with
  | coordinator moved => exact sequence.coordinator moved sound single live
  | worker _ moved => exact sequence.worker moved sound live
  | consumer moved => exact sequence.consumer moved sound live
  | called resting => exact sequence.call resting sound.orderly
  -- Signals play no part in the sequence.
  | cancelled token foreign => exact ⟨sequence.narrow, sequence.quiet, sequence.passed, sequence.searched⟩

/-- A run that has been made has searched nothing. -/
theorem inSequence_start (sources : ModuleSources) (signals : Signals) (token : CancelToken) (seed : Path)
    (limit : Nat) : (start signals token seed limit).InSequence sources where
  narrow := Nat.zero_le 1
  quiet deaf := by cases deaf
  passed := rfl
  searched started := absurd rfl started

/-- Every history of an uncancelled run that reads one module at a time follows the search. -/
theorem inSequence_of_play? {signals : Signals} {token : CancelToken} {seed : Path} {limit : Nat}
    {moves : List Move} {last : History} (single : limit ≤ 1)
    (played : (start signals token seed limit).play? sources moves = some last)
    (live : last.signals.isCancelled last.run.token = false) : last.InSequence sources := by
  -- A token that is not cancelled in the end never was.
  have all : last.Sound sources ∧ last.run.limit = 1 ∧
      (last.signals.isCancelled last.run.token = false → last.InSequence sources) := by
    refine @play?_keeps sources (fun history => history.Sound sources ∧ history.run.limit = 1 ∧
      (history.signals.isCancelled history.run.token = false → history.InSequence sources)) moves _ last ?_ played
      ⟨sound_start sources signals token seed limit, Nat.max_eq_right single,
        fun _ => inSequence_start sources signals token seed limit⟩
    -- As the token was not cancelled before the last move, the sequence was followed up to there.
    intro move _ before after moved ⟨sound, one, sequence⟩
    refine ⟨sound.step moved, moved.sameRun.limit.trans one, fun live => ?_⟩
    exact (sequence (moved.live live)).step moved sound one (moved.live live)
  exact all.2.2 live

end History

end ModuleScope
