import ModuleScope.Proofs.Discovery.Orderly

/-! The permits of a run: each one that is given out is held by a worker, and so a permit is left if none holds one. -/

namespace ModuleScope

namespace Gate

/-- A permit is left in a gate that has given out fewer than it admits holders. -/
theorem take?_isSome {gate : Gate} (free : gate.taken < gate.capacity) : ∃ next, gate.take? = some next :=
  ⟨_, dif_pos free⟩

/-- One more permit is given out by a gate that gives one. -/
theorem take?_taken {gate next : Gate} (took : gate.take? = some next) : next.taken = gate.taken + 1 := by
  unfold take? at took
  split at took <;> cases took
  rfl

/-- A gate that gives a permit admits as many holders as before. -/
theorem take?_capacity {gate next : Gate} (took : gate.take? = some next) : next.capacity = gate.capacity := by
  unfold take? at took
  split at took <;> cases took
  rfl

end Gate

namespace Run

/-- How many workers have a permit. -/
def holders (run : Run) : Nat := run.workers.countP fun worker => worker.stage.holdsPermit

/-- The gate has given out one permit to each worker that has one, and no others. -/
def PermitsHeld (run : Run) : Prop := run.gate.taken = run.holders

/-- No worker has a permit when all are gone. -/
theorem holders_idle {run : Run} (idle : run.isIdle = true) : run.holders = 0 := by
  unfold holders
  rw [List.countP_eq_zero]
  intro worker member
  have stage := List.all_eq_true.mp idle worker member
  simp only [decide_eq_true_eq] at stage
  simp [stage, WorkerStage.holdsPermit]

/-- A step of the coordinator gives out no permit, and no worker that has one is sent away. -/
theorem PermitsHeld.coordinator {signals signals' : Signals} {run run' : Run}
    (moved : CoordinatorMoved signals run signals' run') (orderly : run.Orderly) (held : run.PermitsHeld) :
    run'.PermitsHeld := by
  unfold PermitsHeld holders at *
  cases moved with
  | dispatched stage fresh =>
    -- There were no workers before the batch, and the new ones have yet to ask.
    have none := (orderly.emptyHanded (by rw [stage]; rfl)).1
    rw [none] at held
    simpa [WorkerStage.holdsPermit, Function.comp_def] using held
  | batchEnded outcome stage results idle =>
    -- All workers are gone, and none of them has kept a permit.
    have gone : run.workers.countP (fun worker => worker.stage.holdsPermit) = 0 := holders_idle idle
    simpa [gone] using held
  | _ => exact held

/-- A worker takes a permit before it reads and gives it back after that. -/
theorem PermitsHeld.worker {sources : ModuleSources} {signals : Signals} {run run' : Run}
    (moved : WorkerMoved sources signals run run') (held : run.PermitsHeld) : run'.PermitsHeld := by
  unfold PermitsHeld holders at *
  cases moved with
  | turnedAway front back path workers _ | asked front back path workers _
  | timedOut front back path workers _ | calledOff front back path workers _
  | started front back path workers _ | ended front back path workers =>
    simpa [workers, WorkerStage.holdsPermit] using held
  | admitted front back path gate workers free =>
    -- One permit is taken and one worker more has one.
    have taken := Gate.take?_taken free
    simp only [workers, List.countP_append, List.countP_cons, WorkerStage.holdsPermit] at held ⊢
    simp only [Bool.false_eq_true, if_false, if_true] at held ⊢
    omega
  | left front back path workers =>
    -- The permit is given back on leaving.
    have released : run.gate.release.taken = run.gate.taken - 1 := rfl
    simp only [workers, List.countP_append, List.countP_cons, WorkerStage.holdsPermit] at held ⊢
    simp only [Bool.false_eq_true, if_false, if_true] at held ⊢
    omega

end Run

/-- Every move keeps the permits with the workers that have them. -/
theorem History.permitsHeld_step {sources : ModuleSources} {before after : History} {move : Move}
    (moved : before.Moved sources move after) (orderly : before.run.Orderly) (held : before.run.PermitsHeld) :
    after.run.PermitsHeld := by
  cases moved with
  | coordinator moved => exact held.coordinator moved orderly
  | worker _ moved => exact held.worker moved
  -- Nobody else touches gate or workers.
  | consumer moved => cases moved <;> exact held
  | called resting =>
    unfold Run.call
    split <;> exact held
  | cancelled token foreign => exact held

end ModuleScope
