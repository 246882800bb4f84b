import ModuleScope.Discovery.Schedule
import ModuleScope.Proofs.Discovery.Permits
import ModuleScope.Proofs.Discovery.Work

/-! A run can always go on to its end: nobody waits for anything that is not about to happen. -/

namespace ModuleScope

namespace Run

variable {sources : ModuleSources} {signals : Signals} {run : Run}

/-- A coordinator that has started and can get rid of events waits for nothing but its workers. -/
theorem collecting_of_waits (started : run.coordinator ≠ .unstarted) (there : run.coordinator ≠ .exited)
    (room : run.listening = true → run.events.length < run.limit) (waits : run.coordinatorStep signals = none) :
    ∃ worker ∈ run.workers, worker.stage ≠ .gone := by
  cases stage : run.coordinator with
  | unstarted => exact absurd stage started
  | exited => exact absurd stage there
  | collecting outcome =>
    -- It collects, so it waits only if there are no results and workers are left.
    cases results : run.results with
    | cons result rest => cases outcome <;> simp [coordinatorStep, stage, results] at waits
    | nil =>
      have busy : run.isIdle = false := by simpa [coordinatorStep, stage, results] using waits
      simpa [isIdle] using busy
  | checking | checkingStop | closing | closingStop | weighing =>
    -- At all other stages it takes a step whatever it finds.
    simp only [coordinatorStep, stage] at waits
    split at waits <;> cases waits
  | dispatching => simp [coordinatorStep, stage] at waits
  | accepting result => cases result <;> simp [coordinatorStep, stage] at waits
  | sending | announcing =>
    -- If nobody listens, no room is needed.
    cases heard : run.listening with
    | false => simp [coordinatorStep, stage, heard] at waits
    | true => simp [coordinatorStep, stage, heard, room heard] at waits

/-- A worker that is under way can take a step. -/
theorem workerStep_isSome {index : Nat} {worker : Worker} (found : run.workers[index]? = some worker)
    (there : worker.stage ≠ .gone) : ∃ run', run.workerStep sources signals index = some run' := by
  obtain ⟨path, stage⟩ := worker
  simp only [workerStep, found, Option.bind_eq_bind, Option.bind_some]
  cases stage with
  | gone => exact absurd rfl there
  -- It goes on in either case, whatever it finds.
  | arriving | admitted => by_cases stopped : signals.isCancelled run.stop = true <;> simp [stopped]
  | waiting => cases run.gate.take? <;> simp
  | reading | leaving => exact ⟨_, rfl⟩

/-- A permit is left if no worker has one. -/
theorem PermitsHeld.free (held : run.PermitsHeld)
    (none : ∀ worker ∈ run.workers, worker.stage.holdsPermit = false) : ∃ gate, run.gate.take? = some gate := by
  -- If no worker holds a permit, none is taken.
  have empty : run.holders = 0 := by
    unfold holders
    rw [List.countP_eq_zero]
    intro worker member
    simp [none worker member]
  apply Gate.take?_isSome
  rw [held, empty]
  exact run.gate.positive

/-- The worker that goes on is there, and a permit is left for it unless it has one. -/
theorem PermitsHeld.nextWorker (held : run.PermitsHeld) {worker : Worker} (member : worker ∈ run.workers)
    (there : worker.stage ≠ .gone) :
    ∃ next, run.workers[run.nextWorker]? = some next ∧ next.stage ≠ .gone ∧
      (next.stage.holdsPermit = false → ∃ gate, run.gate.take? = some gate) := by
  unfold Run.nextWorker
  cases found : run.workers.findIdx? fun worker => worker.stage.holdsPermit with
  | some index =>
    -- A worker that has a permit is not gone.
    obtain ⟨inside, holds, _⟩ := List.findIdx?_eq_some_iff_getElem.mp found
    refine ⟨run.workers[index], List.getElem?_eq_getElem inside, ?_, fun without => ?_⟩
    · intro gone
      rw [gone] at holds
      cases holds
    · cases holds.symm.trans without
  | none =>
    -- Nobody has a permit, so one is left for the first worker that is not gone.
    have some : ∃ worker ∈ run.workers, decide (worker.stage ≠ .gone) = true := ⟨worker, member, decide_eq_true there⟩
    have inside := List.findIdx_lt_length.mpr some
    refine ⟨_, List.getElem?_eq_getElem inside, of_decide_eq_true (List.findIdx_getElem (w := inside)), fun _ => ?_⟩
    exact held.free (List.findIdx?_eq_none_iff.mp found)

/-- Some worker does more than look in its next step, if need be after it has asked for a permit. -/
theorem PermitsHeld.gets_on (held : run.PermitsHeld) {worker : Worker} (member : worker ∈ run.workers)
    (there : worker.stage ≠ .gone) :
    ∃ index asked run', (asked = run ∨ run.workerStep sources signals index = some asked) ∧
      asked.workerStep sources signals index = some run' ∧ asked.isWorkerLook signals index = false := by
  obtain ⟨⟨path, stage⟩, found, present, free⟩ := held.nextWorker member there
  obtain ⟨next, stepped⟩ := @workerStep_isSome sources signals _ _ _ found present
  cases stage with
  | gone => exact absurd rfl present
  -- These steps are no mere looks.
  | admitted | reading | leaving => exact ⟨_, run, next, Or.inl rfl, stepped, by simp [isWorkerLook, found]⟩
  | waiting =>
    -- There is a permit, so it is not refused.
    obtain ⟨gate, left⟩ := free rfl
    exact ⟨_, run, next, Or.inl rfl, stepped, by simp [isWorkerLook, found, left]⟩
  | arriving =>
    obtain ⟨gate, left⟩ := free rfl
    by_cases stopped : signals.isCancelled run.stop = true
    · exact ⟨_, run, next, Or.inl rfl, stepped, by simp [isWorkerLook, found, stopped]⟩
    · -- The worker asks first, and then the permit is still there.
      obtain ⟨inside, _⟩ := List.getElem?_eq_some_iff.mp found
      have waits : next = run.setStage run.nextWorker ⟨path, .arriving⟩ .waiting := by
        simp only [workerStep, found, Option.bind_eq_bind, Option.bind_some, stopped] at stepped
        simpa using stepped.symm
      have found' : next.workers[run.nextWorker]? = some ⟨path, .waiting⟩ := by simp [waits, setStage, inside]
      have left' : next.gate.take? = some gate := by rw [waits]; exact left
      obtain ⟨run', onward⟩ := @workerStep_isSome sources signals _ _ _ found' (by simp)
      exact ⟨_, next, run', Or.inr stepped, onward, by simp [isWorkerLook, found', left']⟩

end Run

namespace History

variable {sources : ModuleSources} {history before after last : History} {paths : List Path} {most : Nat}

/-- A history goes on by several moves just if it goes on by some of them and then by the others. -/
theorem play?_append (first second : List Move) :
    history.play? sources (first ++ second) =
      (history.play? sources first).bind fun next => next.play? sources second := by
  induction first generalizing history with
  | nil => rfl
  | cons move rest ih =>
    simp only [List.cons_append, play?, Option.bind_assoc]
    congr 1
    funext next
    exact ih

/-- The run can go on from the one history to the other without anybody cancelling a token. -/
def GoesOn (sources : ModuleSources) (before after : History) : Prop :=
  ∃ moves, (∀ token, .cancel token ∉ moves) ∧ before.play? sources moves = some after

/-- No move is needed to stay. -/
theorem GoesOn.refl (history : History) : GoesOn sources history history := ⟨[], by simp, rfl⟩

/-- Going on twice is going on. -/
theorem GoesOn.trans {middle : History} (first : GoesOn sources before middle) (second : GoesOn sources middle after) :
    GoesOn sources before after := by
  obtain ⟨moves, calm, played⟩ := first
  obtain ⟨moves', calm', played'⟩ := second
  refine ⟨moves ++ moves', ?_, ?_⟩
  · intro token member
    rcases List.mem_append.mp member with early | late
    · exact calm token early
    · exact calm' token late
  · rw [play?_append, played]
    exact played'

/-- A single move that cancels nothing is enough to go on. -/
theorem GoesOn.single {move : Move} (own : ∀ token, .cancel token ≠ move)
    (moved : before.move? sources move = some after) : GoesOn sources before after := by
  refine ⟨[move], ?_, by simp [play?, moved]⟩
  intro token member
  exact own token (List.mem_singleton.mp member)

/-- The run can go on, and that brings it to its end or nearer to it. -/
def Advances (sources : ModuleSources) (most total : Nat) (history : History) : Prop :=
  ∃ next, GoesOn sources history next ∧
    (next.run.state.hasEnded = true ∨ next.run.work most total < history.run.work most total)

/-- A run that can make its last move advances. -/
theorem Advances.of_ended {move : Move} {total : Nat} (own : ∀ token, .cancel token ≠ move)
    (moved : before.move? sources move = some after) (ended : after.run.state.hasEnded = true) :
    Advances sources most total before := ⟨after, .single own moved, Or.inl ended⟩

/-- A run that advances after a move that adds no work advances. -/
theorem Advances.of_move {move : Move} {total : Nat} (advances : Advances sources most total after)
    (own : ∀ token, .cancel token ≠ move) (moved : before.move? sources move = some after)
    (atMost : after.run.work most total ≤ before.run.work most total) : Advances sources most total before := by
  obtain ⟨next, goesOn, nearer⟩ := advances
  exact ⟨next, (GoesOn.single own moved).trans goesOn, nearer.imp_right fun less => Nat.lt_of_lt_of_le less atMost⟩

/-- What holds in every history of a run, and keeps its parts from waiting for each other. -/
structure Steady (sources : ModuleSources) (history : History) : Prop where
  /-- The history is sound. -/
  sound : history.Sound sources
  /-- Permits are with the workers that have them. -/
  held : history.run.PermitsHeld
  /-- The coordinator has started if the run has. -/
  started : history.run.coordinator = .unstarted → history.run.state = .idle
  /-- Some module may be read. -/
  limit : 0 < history.run.limit

/-- Every move keeps a history steady. -/
theorem Steady.step {move : Move} (steady : before.Steady sources) (moved : before.Moved sources move after) :
    after.Steady sources where
  sound := steady.sound.step moved
  held := permitsHeld_step moved steady.sound.orderly steady.held
  started := by
    -- Only the first call takes the coordinator from the stage before its start, and no step leads back there.
    have started := steady.started
    have orderly := steady.sound.orderly
    cases moved with
    | coordinator moved =>
      cases moved with
      | batchEnded outcome stage _ _ =>
        intro unstarted
        cases outcome <;> cases unstarted
      | _ => simp_all
    | worker _ moved => cases moved <;> exact started
    | consumer moved =>
      cases moved with
      | cancelled stage _ =>
        -- A consumer that asks has started the run before.
        intro unstarted
        cases (orderly.asks (Or.inl stage)).symm.trans (started unstarted)
      | failed _ _ stage _ | finished _ _ stage _ | deserted stage _ _ =>
        intro unstarted
        cases (orderly.asks (Or.inr stage)).symm.trans (started unstarted)
      | _ => exact started
    | called _ =>
      unfold Run.call
      split <;> simp_all
    | cancelled _ _ => exact started
  limit := moved.sameRun.limit ▸ steady.limit

/-- A steady run that goes on stays steady. -/
theorem GoesOn.steady (goesOn : GoesOn sources before after) (steady : before.Steady sources) :
    after.Steady sources := by
  obtain ⟨moves, _, played⟩ := goesOn
  exact play?_keeps (fun _ _ _ _ moved known => known.step moved) played steady

/-- All histories of a run are steady. -/
theorem steady_of_play? {signals : Signals} {token : CancelToken} {seed : Path} {limit : Nat} {moves : List Move}
    (played : (start signals token seed limit).play? sources moves = some last) : last.Steady sources := by
  have initially : (start signals token seed limit).Steady sources :=
    { sound := sound_start sources signals token seed limit
      held := rfl
      started := fun _ => rfl
      limit := Nat.lt_of_lt_of_le Nat.one_pos (Nat.le_max_right _ _) }
  exact play?_keeps (fun _ _ _ _ moved steady => steady.step moved) played initially

/-- The coordinator of a run that has been asked for something has started. -/
theorem Steady.active (steady : history.Steady sources) (going : history.run.state ≠ .idle) :
    history.run.coordinator ≠ .unstarted := fun unstarted => going (steady.started unstarted)

/-- All that is needed to see that a run comes to its end. -/
structure Underway (sources : ModuleSources) (paths : List Path) (most : Nat) (history : History) : Prop
    extends history.Steady sources where
  /-- What the run may meet is limited. -/
  limited : sources.Limited history.run.seed paths most

/-- Every move keeps what is needed. -/
theorem Underway.step {move : Move} (underway : before.Underway sources paths most)
    (moved : before.Moved sources move after) : after.Underway sources paths most where
  toSteady := underway.toSteady.step moved
  limited := moved.sameRun.seed ▸ underway.limited

/-- A run that is under way stays so when it goes on. -/
theorem GoesOn.underway (goesOn : GoesOn sources before after) (underway : before.Underway sources paths most) :
    after.Underway sources paths most := by
  obtain ⟨moves, _, played⟩ := goesOn
  exact play?_keeps (fun _ _ _ _ moved known => known.step moved) played underway

/-- A possible move that is more than a look brings a run nearer to its end. -/
theorem Underway.advances_of_move {move : Move} (underway : history.Underway sources paths most)
    (going : history.run.state.hasEnded = false) (own : ∀ token, .cancel token ≠ move)
    (moved : history.move? sources move = some after) (look : history.isLook move = false) :
    Advances sources most paths.length history :=
  ⟨after, .single own moved, Or.inr ((work_move underway.sound underway.limit underway.limited going moved).2 look)⟩

/-- A step of a worker is a move. -/
theorem move?_worker {index : Nat} {run : Run}
    (stepped : history.run.workerStep sources history.signals index = some run) :
    history.move? sources (.act (.worker index)) = some { history with run } := by
  simp [move?, Run.step, stepped]

/-- A run goes on as long as a worker is under way. -/
theorem Underway.worker (underway : history.Underway sources paths most)
    (going : history.run.state.hasEnded = false) {worker : Worker} (member : worker ∈ history.run.workers)
    (there : worker.stage ≠ .gone) : Advances sources most paths.length history := by
  obtain ⟨index, asked, run', first, stepped, look⟩ :=
    @Run.PermitsHeld.gets_on sources history.signals _ underway.held _ member there
  rcases first with rfl | first
  · -- Its next step does some work.
    exact underway.advances_of_move going (by simp) (move?_worker stepped) look
  · -- The worker asks first, which adds no work.
    have moved := move?_worker first
    have atMost := (work_move underway.sound underway.limit underway.limited going moved).1
    have later := underway.step (move?_moved moved)
    have still : asked.state.hasEnded = false := by
      rw [(Run.workerStep_moved first).frame]
      exact going
    exact Advances.of_move (later.advances_of_move still (by simp) (move?_worker stepped) look) (by simp) moved atMost

/-- A run goes on as long as its consumer waits for an event. -/
theorem Underway.receiving (underway : history.Underway sources paths most)
    (going : history.run.state.hasEnded = false) (stage : history.run.consumer = .receiving) :
    Advances sources most paths.length history := by
  have draining := underway.sound.orderly.asks (Or.inr stage)
  cases events : history.run.events with
  | cons event rest =>
    -- Whatever the event is, the consumer takes it.
    have stepped : ∃ after, history.move? sources (.act .consumer) = some after := by
      cases event <;> simp [move?, Run.step, Run.consumerStep, stage, events]
    obtain ⟨after, moved⟩ := stepped
    apply underway.advances_of_move going (by simp) moved
    simp [isLook, Run.isConsumerLook, stage, events]
  | nil =>
    by_cases gone : history.run.coordinator = .exited
    · -- Without the coordinator the consumer waits no longer.
      have moved : history.move? sources (.act .consumer) =
          some { history with
            signals := (history.run.finish history.signals .faulted none).1
            run := (history.run.finish history.signals .faulted none).2 } := by
        simp [move?, Run.step, Run.consumerStep, stage, events, gone]
      exact .of_ended (by simp) moved rfl
    · -- Otherwise the coordinator takes a step, or it waits for a worker.
      have started : history.run.coordinator ≠ .unstarted := underway.active (by simp [draining])
      cases stepped : history.run.coordinatorStep history.signals with
      | some after =>
        have moved : history.move? sources (.act .coordinator) =
            some { history with signals := after.1, run := after.2 } := by
          simp [move?, Run.step, stepped]
        exact underway.advances_of_move going (by simp) moved rfl
      | none =>
        have room : history.run.listening = true → history.run.events.length < history.run.limit := by
          intro _
          rw [events]
          exact underway.limit
        obtain ⟨worker, member, there⟩ := Run.collecting_of_waits started gone room stepped
        exact underway.worker going member there

/-- A run that has not ended goes on. -/
theorem Underway.advances (underway : history.Underway sources paths most)
    (going : history.run.state.hasEnded = false) : Advances sources most paths.length history := by
  cases stage : history.run.consumer with
  | resting => exact underway.advances_of_move going (by simp) (move?_call stage) rfl
  | joining answer =>
    -- A call that waits for the end of the coordinator is past the end of the run.
    have ended := (underway.sound.orderly.joins answer stage).1
    cases going.symm.trans ended
  | receiving => exact underway.receiving going stage
  | checking =>
    -- Looking at the token is no work by itself, but after it the consumer ends the run or waits for events.
    by_cases cancelled : history.signals.isCancelled history.run.token = true
    · have moved : history.move? sources (.act .consumer) =
          some { history with
            signals := (history.run.finish history.signals .cancelled none).1
            run := (history.run.finish history.signals .cancelled none).2 } := by
        simp [move?, Run.step, Run.consumerStep, stage, cancelled]
      exact .of_ended (by simp) moved rfl
    · have moved : history.move? sources (.act .consumer) =
          some { history with run := { history.run with consumer := .receiving } } := by
        simp [move?, Run.step, Run.consumerStep, stage, cancelled]
      have atMost := (work_move underway.sound underway.limit underway.limited going moved).1
      exact Advances.of_move ((underway.step (move?_moved moved)).receiving going rfl) (by simp) moved atMost

/-- A run can go on to its end. -/
theorem Underway.ends (underway : history.Underway sources paths most) :
    ∃ last, GoesOn sources history last ∧ last.run.state.hasEnded = true := by
  -- The work that is left gets less each time.
  induction work : history.run.work most paths.length using Nat.strongRecOn generalizing history with
  | ind _ ih =>
    subst work
    by_cases ended : history.run.state.hasEnded = true
    · exact ⟨history, .refl history, ended⟩
    · rw [Bool.not_eq_true] at ended
      obtain ⟨next, goesOn, nearer⟩ := underway.advances ended
      rcases nearer with finished | less
      · exact ⟨next, goesOn, finished⟩
      · obtain ⟨last, goesOn', finished⟩ := ih _ less (goesOn.underway underway) rfl
        exact ⟨last, goesOn.trans goesOn', finished⟩

/-- What is needed to see that a run goes on holds in all of its histories. -/
theorem underway_of_play? {signals : Signals} {token : CancelToken} {seed : Path} {limit : Nat} {moves : List Move}
    (limited : sources.Limited seed paths most)
    (played : (start signals token seed limit).play? sources moves = some last) : last.Underway sources paths most := by
  obtain ⟨_, same⟩ := sound_of_play? played
  exact { steady_of_play? played with limited := same.seed ▸ limited }

/-- A run whose seed leads to finitely many paths reads no more than those, only so many moves before its end are more
than looks, and it can always go on to its end. -/
theorem ends_within {signals : Signals} {token : CancelToken} {seed : Path} {limit : Nat} {moves : List Move}
    (limited : sources.Limited seed paths most)
    (played : (start signals token seed limit).play? sources moves = some last) :
    last.run.reads.length ≤ paths.length ∧
      (start signals token seed limit).labour sources moves ≤ (3 * most + 16) * paths.length + 11 ∧
      ∃ final, GoesOn sources last final ∧ final.run.state.hasEnded = true := by
  have first : (start signals token seed limit).Underway sources paths most :=
    @underway_of_play? sources _ paths most signals token seed limit [] limited rfl
  have now := underway_of_play? limited played
  refine ⟨now.sound.reads_le now.limited, ?_, now.ends⟩
  -- The bound is the work that the run has before its first move.
  have bounded := @Sound.labour_le sources _ paths most moves first.sound first.limit first.limited
  simpa [start, Run.new, Run.work, Run.workersWork, Run.outcomesWork, CoordinatorStage.work,
    ConsumerStage.work] using bounded

end History

end ModuleScope
