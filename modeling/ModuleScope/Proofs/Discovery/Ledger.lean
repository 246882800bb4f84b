import ModuleScope.Proofs.Discovery.Orderly
import ModuleScope.Proofs.Discovery.Reachable

/-! What becomes of the paths that were seen: each is read at most once, and each outcome is that of one. -/

namespace ModuleScope

namespace WorkerStage

/-- The worker has not started to read. -/
def isWaiting : WorkerStage → Bool
  | arriving | waiting | admitted => true
  | reading | leaving | gone => false

/-- An outcome may still come from the worker. -/
def isDue : WorkerStage → Bool
  | arriving | waiting | admitted | reading => true
  | leaving | gone => false

end WorkerStage

namespace CoordinatorStage

/-- The outcome that the coordinator is dealing with. -/
def inHand : CoordinatorStage → List ModuleOutcome
  | .weighing result | .accepting result => [result]
  | .sending module => [.ok module]
  | _ => []
end CoordinatorStage

namespace Run

/-- The paths of the workers at certain stages. -/
def pathsAt (holds : WorkerStage → Bool) (workers : List Worker) : List Path :=
  (workers.filter fun worker => holds worker.stage).map (·.path)

/-- Workers side by side have their paths side by side. -/
@[simp] theorem pathsAt_append (holds : WorkerStage → Bool) (front back : List Worker) :
    pathsAt holds (front ++ back) = pathsAt holds front ++ pathsAt holds back := by
  simp [pathsAt]

/-- The first worker counts if its stage does. -/
@[simp] theorem pathsAt_cons (holds : WorkerStage → Bool) (path : Path) (stage : WorkerStage)
    (workers : List Worker) :
    pathsAt holds (⟨path, stage⟩ :: workers) =
      if holds stage then path :: pathsAt holds workers else pathsAt holds workers := by
  cases counts : holds stage <;> simp [pathsAt, counts]

/-- There are no paths without workers. -/
@[simp] theorem pathsAt_nil (holds : WorkerStage → Bool) : pathsAt holds [] = [] := rfl

/-- Workers that have just been started have the paths of their batch. -/
theorem pathsAt_started (holds : WorkerStage → Bool) (batch : List Path)
    (counts : holds .arriving = true) : pathsAt holds (batch.map fun path => ⟨path, .arriving⟩) = batch := by
  induction batch with
  | nil => rfl
  | cons path rest ih => simp [counts, ih]

/-- Nothing is due from workers that are all gone. -/
theorem pathsAt_idle {run : Run} (idle : run.isIdle = true) :
    pathsAt WorkerStage.isDue run.workers = [] := by
  -- No worker is at another stage.
  simp only [pathsAt, List.map_eq_nil_iff, List.filter_eq_nil_iff]
  intro worker member
  have gone := List.all_eq_true.mp idle worker member
  simp only [decide_eq_true_eq] at gone
  simp [gone, WorkerStage.isDue]

/-- The paths that have been seen differ, and each is waited for or has been read once at most. -/
structure ReadLedger (run : Run) : Prop where
  /-- No path is seen twice. -/
  differ : run.seen.Pairwise Path.Differs
  /-- Reading starts once for a path that has been seen. -/
  drawn : (run.reads ++ pathsAt WorkerStage.isWaiting run.workers).Subperm run.seen

/-- No path stands twice among those that have been seen. -/
theorem ReadLedger.nodup_seen {run : Run} (ledger : ReadLedger run) : run.seen.Nodup := by
  refine ledger.differ.imp fun {one other} differ => ?_
  rintro rfl
  exact differ (Path.same_refl one)

/-- A step of the coordinator reads nothing, and it starts workers for new paths only. -/
theorem ReadLedger.coordinator {signals signals' : Signals} {run run' : Run}
    (moved : CoordinatorMoved signals run signals' run') (ledger : ReadLedger run) :
    ReadLedger run' := by
  cases moved with
  | dispatched stage fresh =>
    refine ⟨batch_differs ledger.differ, ?_⟩
    -- What was read before is still among the paths seen before.
    have before : run.reads.Subperm run.seen :=
      (List.sublist_append_left _ _).subperm.trans ledger.drawn
    rw [pathsAt_started _ _ rfl]
    exact List.perm_append_comm.subperm.trans ((List.reverse_perm _).symm.subperm.append before)
  | batchEnded outcome stage results idle =>
    -- The workers are gone, and what they had waited for with them.
    exact ⟨ledger.differ, (List.Sublist.append_left (List.nil_sublist _) _).subperm.trans ledger.drawn⟩
  | _ => exact ⟨ledger.differ, ledger.drawn⟩

/-- A worker reads its own path, and it does so once. -/
theorem ReadLedger.worker {sources : ModuleSources} {signals : Signals} {run run' : Run}
    (moved : WorkerMoved sources signals run run') (ledger : ReadLedger run) : ReadLedger run' := by
  -- Only the stage of one worker changes.
  have drawn := ledger.drawn
  refine ⟨by cases moved <;> exact ledger.differ, ?_⟩
  cases moved with
  | turnedAway front back path workers stopped =>
    -- A worker that leaves without reading gives its path up.
    simp only [workers, pathsAt_append, pathsAt_cons, WorkerStage.isWaiting] at drawn ⊢
    refine List.Subperm.trans (List.Sublist.subperm ?_) drawn
    exact ((List.sublist_cons_self path _).append_left _).append_left _
  | calledOff front back path workers stopped =>
    simp only [workers, pathsAt_append, pathsAt_cons, WorkerStage.isWaiting] at drawn ⊢
    refine List.Subperm.trans (List.Sublist.subperm ?_) drawn
    exact ((List.sublist_cons_self path _).append_left _).append_left _
  | started front back path workers going =>
    simp only [workers, pathsAt_append, pathsAt_cons, WorkerStage.isWaiting] at drawn ⊢
    -- The path moves from those waited for to those read.
    refine List.Perm.subperm ?_ |>.trans drawn
    have moves : (path :: (run.reads ++ pathsAt WorkerStage.isWaiting front ++
        pathsAt WorkerStage.isWaiting back)).Perm
        (run.reads ++ pathsAt WorkerStage.isWaiting front ++
          path :: pathsAt WorkerStage.isWaiting back) := List.perm_middle.symm
    simpa using moves
  | asked front back path workers going =>
    -- With the other steps it waits on, or it has read already.
    simpa [workers, WorkerStage.isWaiting] using drawn
  | admitted front back path gate workers free =>
    simpa [workers, WorkerStage.isWaiting] using drawn
  | timedOut front back path workers full =>
    simpa [workers, WorkerStage.isWaiting] using drawn
  | ended front back path workers =>
    simpa [workers, WorkerStage.isWaiting] using drawn
  | left front back path workers =>
    simpa [workers, WorkerStage.isWaiting] using drawn

end Run

/-- Every move keeps the ledger of reads. -/
theorem History.readLedger_step {sources : ModuleSources} {before after : History} {move : Move}
    (moved : before.Moved sources move after) (ledger : before.run.ReadLedger) : after.run.ReadLedger := by
  -- Only the coordinator and the workers touch what the ledger is about.
  cases moved with
  | coordinator moved => exact ledger.coordinator moved
  | worker _ moved => exact ledger.worker moved
  | consumer moved => cases moved <;> exact ⟨ledger.differ, ledger.drawn⟩
  | called resting =>
    unfold Run.call
    split <;> exact ⟨ledger.differ, ledger.drawn⟩
  | cancelled token foreign => exact ledger

/-- The modules among answers. -/
def answeredModules (answers : List (Option ModuleOutcome)) : List FoundModule :=
  answers.filterMap fun answer =>
    match answer with
    | some (.ok module) => some module
    | _ => none

/-- The modules among events. -/
def sentModules (events : List RunEvent) : List FoundModule :=
  events.filterMap fun event =>
    match event with
    | .found module => some module
    | _ => none

/-- Later answers come after earlier ones. -/
@[simp] theorem answeredModules_append (first second : List (Option ModuleOutcome)) :
    answeredModules (first ++ second) = answeredModules first ++ answeredModules second := by
  simp [answeredModules]

/-- Later events come after earlier ones. -/
@[simp] theorem sentModules_append (first second : List RunEvent) :
    sentModules (first ++ second) = sentModules first ++ sentModules second := by
  simp [sentModules]

/-- There are no modules without events. -/
@[simp] theorem sentModules_nil : sentModules [] = [] := rfl

/-- An event that tells of a module holds it. -/
@[simp] theorem sentModules_found (module : FoundModule) (events : List RunEvent) :
    sentModules (.found module :: events) = module :: sentModules events := rfl

/-- An event that ends the run holds no module. -/
theorem sentModules_last {event : RunEvent} (last : event.isLast = true) : sentModules [event] = [] := by
  cases event with
  | found module => cases last
  | failed error => rfl
  | finished state => rfl

/-- An answer that is not a module holds none. -/
theorem answeredModules_none {answer : Option ModuleOutcome}
    (other : ∀ module, answer ≠ some (.ok module)) : answeredModules [answer] = [] := by
  rcases answer with _ | _ | module
  · rfl
  · rfl
  · exact absurd rfl (other module)

namespace History

/-- The modules that the consumer was told of or will be if it goes on asking. -/
def found (history : History) : List FoundModule :=
  -- Modules that were answered come before those in events.
  answeredModules history.answers ++ sentModules history.run.events

/-- Everything that workers have delivered and that has not been passed over. -/
def delivered (history : History) : List ModuleOutcome :=
  -- The coordinator has one outcome in hand at most.
  history.found.map .ok ++ history.run.coordinator.inHand ++ history.run.results

end History

/-- Modules carry the paths that were asked for. -/
theorem ModuleSources.paths_of_modules {sources : ModuleSources} {paths : List Path} {modules : List FoundModule}
    (described : paths.map sources.describe = modules.map .ok) : paths = modules.map (·.path) := by
  induction paths generalizing modules with
  | nil => simpa using described
  | cons path rest ih =>
    -- Every path has its module.
    obtain ⟨module, modules, rfl⟩ : ∃ head tail, modules = head :: tail :=
      List.exists_cons_of_ne_nil (by rintro rfl; simp at described)
    simp only [List.map_cons, List.cons.injEq] at described
    simp [ih described.2, (ModuleSources.describe_ok described.1).1]

/-- Each outcome is that of another path that has been seen, and so is each path that is due. -/
def Accounted (sources : ModuleSources) (outcomes : List ModuleOutcome) (due seen : List Path) : Prop :=
  ∃ paths, paths.map sources.describe = outcomes ∧ (paths ++ due).Subperm seen

namespace Accounted

variable {sources : ModuleSources} {outcomes : List ModuleOutcome} {due seen : List Path}

/-- Some outcomes and some paths that are due may be left out. -/
theorem mono (accounted : Accounted sources outcomes due seen) {fewer : List ModuleOutcome}
    {less : List Path} (outcomesFewer : fewer.Sublist outcomes) (dueLess : less.Sublist due) :
    Accounted sources fewer less seen := by
  obtain ⟨paths, rfl, drawn⟩ := accounted
  obtain ⟨some, sublist, rfl⟩ := List.sublist_map_iff.mp outcomesFewer
  exact ⟨some, rfl, (sublist.append dueLess).subperm.trans drawn⟩

/-- What is read at a path that is due becomes an outcome. -/
theorem deliver {front back : List Path} {path : Path}
    (accounted : Accounted sources outcomes (front ++ path :: back) seen) :
    Accounted sources (outcomes ++ [sources.describe path]) (front ++ back) seen := by
  obtain ⟨paths, rfl, drawn⟩ := accounted
  refine ⟨paths ++ [path], by simp, List.Perm.subperm ?_ |>.trans drawn⟩
  -- The path moves to the others that have an outcome.
  have moves : (path :: (front ++ back)).Perm (front ++ path :: back) := List.perm_middle.symm
  simpa using moves.append_left paths

/-- A batch of new paths becomes due when nothing else is. -/
theorem dispatch (accounted : Accounted sources outcomes due seen) (batch : List Path) :
    Accounted sources outcomes batch (batch.reverse ++ seen) := by
  obtain ⟨paths, rfl, drawn⟩ := accounted
  have before : paths.Subperm seen := (List.sublist_append_left _ _).subperm.trans drawn
  exact ⟨paths, rfl,
    List.perm_append_comm.subperm.trans ((List.reverse_perm _).symm.subperm.append before)⟩

/-- An outcome is that of a path that has been seen. -/
theorem exists_path (accounted : Accounted sources outcomes due seen) {outcome : ModuleOutcome}
    (member : outcome ∈ outcomes) : ∃ path ∈ seen, sources.describe path = outcome := by
  obtain ⟨paths, rfl, drawn⟩ := accounted
  obtain ⟨path, inside, described⟩ := List.mem_map.mp member
  exact ⟨path, drawn.subset (List.mem_append_left _ inside), described⟩

/-- The paths of modules that were found are other paths that have been seen. -/
theorem paths_subperm {modules : List FoundModule}
    (accounted : Accounted sources (modules.map .ok) due seen) :
    (modules.map (·.path) ++ due).Subperm seen := by
  obtain ⟨paths, described, drawn⟩ := accounted
  have same := ModuleSources.paths_of_modules described
  exact same ▸ drawn

end Accounted

namespace History

/-- What is queued, among the references or seen can be reached, and all outcomes are accounted for. -/
structure Accounts (sources : ModuleSources) (seed : Path) (history : History) : Prop where
  /-- Each outcome belongs to a path that has been seen. -/
  accounted : Accounted sources history.delivered
    (Run.pathsAt WorkerStage.isDue history.run.workers) history.run.seen
  /-- The seed leads to all paths. -/
  reached : ∀ path, path ∈ history.run.queue ∨ path ∈ history.run.references ∨
    path ∈ history.run.seen → sources.references.Reaches seed path

/-- The references of a module that was delivered can be reached. -/
theorem Accounts.reaches {sources : ModuleSources} {seed path : Path} {history : History}
    {module : FoundModule} (accounts : history.Accounts sources seed)
    (member : .ok module ∈ history.delivered) (listed : path ∈ module.declared.references) :
    sources.references.Reaches seed path := by
  -- The module was read at a path that can be reached.
  obtain ⟨origin, seen, described⟩ := accounts.accounted.exists_path member
  refine Relation.ReflTransGen.tail (accounts.reached origin (Or.inr (Or.inr seen))) ?_
  exact ⟨_, (ModuleSources.references_of_describe described).1, listed⟩

/-- Paths that are left in the queue, or were in it, can still be reached. -/
theorem Accounts.still {sources : ModuleSources} {seed : Path} {before after : History}
    (accounts : before.Accounts sources seed)
    (fewer : after.delivered.Sublist before.delivered)
    (less : (Run.pathsAt WorkerStage.isDue after.run.workers).Sublist
      (Run.pathsAt WorkerStage.isDue before.run.workers))
    (seen : after.run.seen = before.run.seen)
    (kept : ∀ path, path ∈ after.run.queue ∨ path ∈ after.run.references →
      path ∈ before.run.queue ∨ path ∈ before.run.references) :
    after.Accounts sources seed := by
  refine ⟨seen ▸ accounts.accounted.mono fewer less, fun path member => ?_⟩
  rw [← or_assoc, seen] at member
  exact accounts.reached path (or_assoc.mp (member.imp_left (kept path)))

/-- A step of the coordinator keeps the accounts. -/
theorem Accounts.coordinator {sources : ModuleSources} {seed : Path} {before : History}
    {signals : Signals} {run : Run}
    (moved : Run.CoordinatorMoved before.signals before.run signals run)
    (orderly : before.run.Orderly) (accounts : before.Accounts sources seed) :
    Accounts sources seed { before with signals, run } := by
  cases moved with
  -- None of these steps has anything to do with modules or paths.
  | roundCancelled stage _ | roundStarted stage _ | roundStopped stage _ | roundOpen stage _
  | weighed _ stage _ | closedCancelled stage _ | closed stage _ | closedStopped stage _ =>
    exact accounts.still (by simp [delivered, found, CoordinatorStage.inHand, stage])
      (List.Sublist.refl _) rfl fun _ member => member
  | weighedCancelled _ stage _ | refused _ stage | abandoned _ stage _ | unheard _ stage _ =>
    -- What was in hand is passed over.
    exact accounts.still (by simp [delivered, found, CoordinatorStage.inHand])
      (List.Sublist.refl _) rfl fun _ member => member
  | taken result rest stage results =>
    -- An outcome goes from the results into the hand.
    exact accounts.still (by simp [delivered, found, CoordinatorStage.inHand, stage, results])
      (List.Sublist.refl _) rfl fun _ member => member
  | passedOver outcome result rest stage wrong results =>
    -- This outcome gets lost.
    refine accounts.still ?_ (List.Sublist.refl _) rfl fun _ member => member
    simp only [delivered, found, results]
    exact (List.sublist_cons_self result rest).append_left _
  | batchEnded outcome stage results idle =>
    refine accounts.still ?_ (List.nil_sublist _) rfl fun _ member => member
    cases outcome <;> simp [delivered, found, CoordinatorStage.inHand, Run.afterBatch, stage]
  | drained stage stale empty =>
    -- What the batch left of the queue has been seen already.
    exact accounts.still (by simp [delivered, found, CoordinatorStage.inHand, stage])
      (List.Sublist.refl _) rfl fun path member => by simpa using Or.inr member
  | skipped stage stale more =>
    exact accounts.still (by simp [delivered, found, CoordinatorStage.inHand, stage])
      (List.Sublist.refl _) rfl fun path member => member.imp_left List.mem_of_mem_drop
  | sent module stage heard room =>
    -- The module goes from the hand into the events.
    exact accounts.still (by simp [delivered, found, CoordinatorStage.inHand, stage])
      (List.Sublist.refl _) rfl fun _ member => member
  | announced event stage heard room =>
    -- The last event is none of a module.
    refine accounts.still ?_ (List.Sublist.refl _) rfl fun _ member => member
    have last := sentModules_last (orderly.announces event stage)
    simp [delivered, found, CoordinatorStage.inHand, stage, last]
  | queued stage going =>
    refine accounts.still (by simp [delivered, found, CoordinatorStage.inHand, stage])
      (List.Sublist.refl _) rfl fun path member => ?_
    simpa using member
  | accepted module stage =>
    refine ⟨?_, fun path member => ?_⟩
    · simpa [delivered, found, CoordinatorStage.inHand, stage] using accounts.accounted
    · -- The references of the module in hand are new.
      simp only [List.mem_append] at member
      rcases member with queued | (old | new) | seen
      · exact accounts.reached path (Or.inl queued)
      · exact accounts.reached path (Or.inr (Or.inl old))
      · exact accounts.reaches (by simp [delivered, CoordinatorStage.inHand, stage]) new
      · exact accounts.reached path (Or.inr (Or.inr seen))
  | dispatched stage fresh =>
    refine ⟨?_, fun path member => ?_⟩
    · have dispatched := accounts.accounted.dispatch before.run.batch
      simpa [delivered, found, CoordinatorStage.inHand, stage,
        Run.pathsAt_started WorkerStage.isDue _ rfl] using dispatched
    · -- What is seen now stood in the queue.
      simp only [List.not_mem_nil, false_or, List.mem_append, List.mem_reverse] at member
      rcases member with queued | fresh | seen
      · exact accounts.reached path (Or.inl (List.mem_of_mem_drop queued))
      · exact accounts.reached path (Or.inl (Run.mem_queue_of_mem_batch fresh))
      · exact accounts.reached path (Or.inr (Or.inr seen))

/-- A step of a worker keeps the accounts: its path is due until it is delivered or lost. -/
theorem Accounts.worker {sources : ModuleSources} {seed : Path} {before : History} {run : Run}
    (moved : Run.WorkerMoved sources before.signals before.run run)
    (accounts : before.Accounts sources seed) : Accounts sources seed { before with run } := by
  cases moved with
  -- Its path stays due.
  | asked front back path workers _ | admitted front back path _ workers _
  | timedOut front back path workers _ | started front back path workers _
  | left front back path workers =>
    exact accounts.still (List.Sublist.refl _) (by simp [workers, WorkerStage.isDue]) rfl
      fun _ member => member
  | turnedAway front back path workers _ | calledOff front back path workers _ =>
    -- A worker that leaves early delivers nothing.
    refine accounts.still (List.Sublist.refl _) ?_ rfl fun _ member => member
    simp [workers, WorkerStage.isDue]
  | ended front back path workers =>
    -- What was due is delivered.
    have due := accounts.accounted
    simp only [workers, Run.pathsAt_append, Run.pathsAt_cons, WorkerStage.isDue] at due
    refine ⟨?_, accounts.reached⟩
    simpa [delivered, found, WorkerStage.isDue] using due.deliver

/-- A step of the consumer keeps the accounts: what it takes from the events it has been told. -/
theorem Accounts.consumer {sources : ModuleSources} {seed : Path} {before : History}
    {signals : Signals} {run : Run} {answer : Option (Option ModuleOutcome)}
    (moved : Run.ConsumerMoved before.signals before.run signals run answer)
    (orderly : before.run.Orderly) (accounts : before.Accounts sources seed) :
    Accounts sources seed
      { before with signals, run, answers := before.answers ++ answer.toList } := by
  cases moved with
  | cancelled stage _ | failed _ _ stage _ | finished _ _ stage _ | deserted stage _ _ =>
    -- Events that were not taken are lost.
    refine accounts.still ?_ (List.Sublist.refl _) rfl fun _ member => member
    simp only [delivered, found, Run.finish, sentModules, List.filterMap_nil, List.append_nil,
      Option.toList, List.map_append, List.append_assoc]
    exact ((List.sublist_append_right _ _)).append_left _
  | waited stage _ | timedOut stage _ _ =>
    exact accounts.still (by simp [delivered, found]) (List.Sublist.refl _) rfl
      fun _ member => member
  | received module rest stage events =>
    -- The module has been sent before, and now it is answered.
    refine accounts.still ?_ (List.Sublist.refl _) rfl fun _ member => member
    simp [delivered, found, events, answeredModules]
  | answered outcome stage gone =>
    -- The answer that was held back is none of a module.
    refine accounts.still ?_ (List.Sublist.refl _) rfl fun _ member => member
    simp [delivered, found, answeredModules_none (orderly.joins outcome stage).2]

/-- A call keeps the accounts: the first one puts the seed into the queue. -/
theorem Accounts.call {sources : ModuleSources} {before : History}
    (orderly : before.run.Orderly) (accounts : before.Accounts sources before.run.seed) :
    Accounts sources before.run.seed { before with run := before.run.call } := by
  unfold Run.call
  split
  · -- Before the first call there was nothing, and now there is the seed.
    rename_i idle
    have queue : before.run.queue = [] := by rw [orderly.untouched idle]
    have coordinator : before.run.coordinator = .unstarted := by rw [orderly.untouched idle]
    refine ⟨?_, fun path member => ?_⟩
    · simpa [delivered, found, CoordinatorStage.inHand, coordinator] using accounts.accounted
    · rcases member with seed | rest
      · rw [List.mem_singleton.mp seed]
        exact Relation.ReflTransGen.refl
      · exact accounts.reached path (Or.inr rest)
  all_goals
    exact accounts.still (List.Sublist.refl _) (List.Sublist.refl _) rfl fun _ member => member

/-- Every move keeps the accounts. -/
theorem Accounts.step {sources : ModuleSources} {before after : History} {move : Move}
    (moved : before.Moved sources move after) (orderly : before.run.Orderly)
    (accounts : before.Accounts sources before.run.seed) :
    after.Accounts sources before.run.seed := by
  cases moved with
  | coordinator moved => exact accounts.coordinator moved orderly
  | worker _ moved => exact accounts.worker moved
  | consumer moved => exact accounts.consumer moved orderly
  | called resting => exact accounts.call orderly
  | cancelled token foreign =>
    exact accounts.still (List.Sublist.refl _) (List.Sublist.refl _) rfl fun _ member => member

end History

end ModuleScope
