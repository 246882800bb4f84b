import ModuleScope.Proofs.Discovery.Completeness
import ModuleScope.Proofs.Discovery.Permits

/-! Gates among callers that come, wait, are cancelled and give permits back in any order, and the gate of a run. -/

namespace ModuleScope

/-- What a caller of a gate does next. -/
inductive CallerStage
  /-- Looks whether its token is cancelled. -/
  | looking (token : CancelToken)
  /-- Waits for a permit. -/
  | waiting (token : CancelToken)
  /-- Has a permit. -/
  | holding
  /-- Was given none. -/
  | refused
  /-- Has given its permit back. -/
  | returned
deriving DecidableEq, Repr

/-- A gate among all signals, with all who have called it. -/
structure GateHistory where
  /-- All signals. -/
  signals : Signals
  /-- The gate. -/
  gate : Gate
  /-- The callers, first caller first. -/
  callers : List CallerStage := []

/-- What can happen next at a gate. -/
inductive GateMove
  /-- Somebody asks for a permit without waiting. -/
  | tryAcquire
  /-- Somebody asks for a permit and will wait for it. -/
  | acquire (token : CancelToken)
  /-- A caller that waits goes on. -/
  | goOn (place : Nat)
  /-- A caller gives its permit back. -/
  | drop (place : Nat)
  /-- Somebody cancels a token. -/
  | cancel (token : CancelToken)

namespace GateHistory

/-- A gate that nobody has called. -/
def start (signals : Signals) (capacity : Nat) : GateHistory := { signals, gate := Gate.new capacity }

/-- The history after a move, if the move is possible. -/
def move? (history : GateHistory) : GateMove → Option GateHistory
  | .tryAcquire =>
    match history.gate.take? with
    | some gate => some { history with gate, callers := history.callers ++ [.holding] }
    | none => some { history with callers := history.callers ++ [.refused] }
  | .acquire token => some { history with callers := history.callers ++ [.looking token] }
  | .goOn place =>
    match history.callers[place]? with
    | some (.looking token) =>
      let next := if history.signals.isCancelled token then .refused else .waiting token
      some { history with callers := history.callers.set place next }
    | some (.waiting token) =>
      -- Waiting is broken off from time to time.
      match history.gate.take? with
      | some gate => some { history with gate, callers := history.callers.set place .holding }
      | none => some { history with callers := history.callers.set place (.looking token) }
    | _ => none
  | .drop place =>
    match history.callers[place]? with
    | some .holding =>
      some { history with gate := history.gate.release, callers := history.callers.set place .returned }
    | _ => none
  | .cancel token => some { history with signals := history.signals.cancel token }

/-- The history after several moves, if all of them are possible. -/
def play? (history : GateHistory) : List GateMove → Option GateHistory
  | [] => some history
  | move :: rest => (history.move? move).bind fun next => next.play? rest

/-- How many callers have a permit. -/
def holders (history : GateHistory) : Nat := history.callers.countP (· = .holding)

/-- What a move does at a gate. -/
inductive Moved (history : GateHistory) : GateMove → GateHistory → Prop
  /-- A permit is given to somebody who does not wait for it. -/
  | given (gate : Gate) (free : history.gate.take? = some gate) :
      Moved history .tryAcquire { history with gate, callers := history.callers ++ [.holding] }
  /-- There is no permit for somebody who does not wait for it. -/
  | denied (full : history.gate.take? = none) :
      Moved history .tryAcquire { history with callers := history.callers ++ [.refused] }
  /-- Somebody comes who will wait. -/
  | came (token : CancelToken) :
      Moved history (.acquire token) { history with callers := history.callers ++ [.looking token] }
  /-- A caller is told that its token is cancelled. -/
  | turnedAway (place : Nat) (token : CancelToken) (found : history.callers[place]? = some (.looking token))
      (cancelled : history.signals.isCancelled token = true) :
      Moved history (.goOn place) { history with callers := history.callers.set place .refused }
  /-- A caller may wait. -/
  | waited (place : Nat) (token : CancelToken) (found : history.callers[place]? = some (.looking token))
      (live : history.signals.isCancelled token = false) :
      Moved history (.goOn place) { history with callers := history.callers.set place (.waiting token) }
  /-- A permit is given to a caller that waits. -/
  | admitted (place : Nat) (token : CancelToken) (gate : Gate)
      (found : history.callers[place]? = some (.waiting token)) (free : history.gate.take? = some gate) :
      Moved history (.goOn place) { history with gate, callers := history.callers.set place .holding }
  /-- A caller stops waiting to look at its token. -/
  | timedOut (place : Nat) (token : CancelToken) (found : history.callers[place]? = some (.waiting token))
      (full : history.gate.take? = none) :
      Moved history (.goOn place) { history with callers := history.callers.set place (.looking token) }
  /-- A permit is given back. -/
  | dropped (place : Nat) (found : history.callers[place]? = some .holding) :
      Moved history (.drop place)
        { history with gate := history.gate.release, callers := history.callers.set place .returned }
  /-- A token is cancelled. -/
  | cancelled (token : CancelToken) :
      Moved history (.cancel token) { history with signals := history.signals.cancel token }

variable {history before after last : GateHistory} {move : GateMove} {moves : List GateMove}

/-- Nothing else can happen in one move. -/
theorem move?_moved (moved : before.move? move = some after) : before.Moved move after := by
  unfold move? at moved
  cases move with
  | tryAcquire =>
    -- The gate gives a permit or it has none.
    dsimp only at moved
    split at moved <;> cases moved
    · exact .given _ ‹_›
    · exact .denied ‹_›
  | acquire token =>
    cases moved
    exact .came token
  | goOn place =>
    -- What the caller does next depends on whether it looks at its token or waits.
    dsimp only at moved
    split at moved
    · -- It looks, so the token decides.
      rename_i token found
      cases moved
      split
      · exact .turnedAway place token found ‹_›
      · rename_i live
        exact .waited place token found (by simpa using live)
    · -- It waits, so the gate decides.
      rename_i token found
      split at moved <;> cases moved
      · exact .admitted place token _ found ‹_›
      · exact .timedOut place token found ‹_›
    · cases moved
  | drop place =>
    dsimp only at moved
    split at moved <;> cases moved
    exact .dropped place ‹_›
  | cancel token =>
    cases moved
    exact .cancelled token

/-- What every move keeps holds after any number of moves. -/
theorem play?_keeps {Holds : GateHistory → Prop}
    (step : ∀ move before after, Moved before move after → Holds before → Holds after)
    (played : before.play? moves = some after) (initially : Holds before) : Holds after := by
  -- The moves are made one after the other.
  induction moves generalizing before with
  | nil =>
    cases played
    exact initially
  | cons move rest ih =>
    obtain ⟨next, moved, played⟩ := Option.bind_eq_some_iff.mp played
    exact ih played (step move before next (move?_moved moved) initially)

/-- When one caller goes on, the others have as many permits as before. -/
theorem holders_set {callers : List CallerStage} {place : Nat} {stage : CallerStage}
    (found : callers[place]? = some stage) (next : CallerStage) :
    (callers.set place next).countP (· = .holding) + (if stage = .holding then 1 else 0) =
      callers.countP (· = .holding) + (if next = .holding then 1 else 0) := by
  -- All callers but this one count on both sides.
  obtain ⟨front, back, callers, changed⟩ := Run.split_of_getElem? found
  rw [changed, callers]
  simp only [List.countP_append, List.countP_cons, decide_eq_true_eq]
  omega

/-- The gate has given out one permit to each caller that has one, and no others. -/
structure Balanced (most : Nat) (history : GateHistory) : Prop where
  /-- It admits so many holders. -/
  capacity : history.gate.capacity = most
  /-- Its count is right. -/
  taken : history.gate.taken = history.holders

/-- Nobody has a permit at first. -/
theorem balanced_start (signals : Signals) (capacity : Nat) : (start signals capacity).Balanced (max capacity 1) :=
  ⟨rfl, rfl⟩

/-- Whatever happens, a permit is neither lost nor given out twice. -/
theorem Balanced.step {most : Nat} (moved : before.Moved move after) (balanced : before.Balanced most) :
    after.Balanced most := by
  obtain ⟨capacity, taken⟩ := balanced
  unfold holders at taken
  cases moved with
  | given gate free =>
    -- One permit more is taken, and one caller more holds it.
    refine ⟨(Gate.take?_capacity free).trans capacity, ?_⟩
    simp [holders, Gate.take?_taken free, taken]
  | denied _ | came _ => exact ⟨capacity, by simp [holders, taken]⟩
  | turnedAway place token found _ =>
    -- A caller that holds nothing goes on to a stage in which it holds nothing.
    have same := holders_set found .refused
    exact ⟨capacity, by simpa [holders, taken] using same.symm⟩
  | waited place token found _ =>
    have same := holders_set found (.waiting token)
    exact ⟨capacity, by simpa [holders, taken] using same.symm⟩
  | timedOut place token found _ =>
    have same := holders_set found (.looking token)
    exact ⟨capacity, by simpa [holders, taken] using same.symm⟩
  | admitted place token gate found free =>
    -- The caller that waited is now counted.
    have more := holders_set found .holding
    refine ⟨(Gate.take?_capacity free).trans capacity, ?_⟩
    simpa [holders, Gate.take?_taken free, taken] using more.symm
  | dropped place found =>
    -- The permit that is given back had been counted.
    have less := holders_set found .returned
    refine ⟨capacity, ?_⟩
    simp only [holders, Gate.release, taken] at less ⊢
    simp at less
    omega
  | cancelled _ => exact ⟨capacity, taken⟩

/-- The caller at a certain place came with a token that had been cancelled, and it has not been let in. -/
def KeptOut (token : CancelToken) (place : Nat) (history : GateHistory) : Prop :=
  history.signals.isCancelled token = true ∧
    (history.callers[place]? = some (.looking token) ∨ history.callers[place]? = some .refused)

/-- It is not let in later. -/
theorem KeptOut.step {token : CancelToken} {place : Nat} (moved : before.Moved move after)
    (keptOut : before.KeptOut token place) : after.KeptOut token place := by
  obtain ⟨cancelled, stage⟩ := keptOut
  -- There is a caller at the place, since it has a stage.
  have inside : place < before.callers.length := by
    by_contra outside
    rw [List.getElem?_eq_none (by omega)] at stage
    simp at stage
  -- The caller itself can only be turned away; whatever the others do is at other places.
  cases moved with
  | given _ _ | denied _ | came _ =>
    exact ⟨cancelled, by simpa [List.getElem?_append_left inside] using stage⟩
  | turnedAway other token' found _ =>
    refine ⟨cancelled, ?_⟩
    rw [List.getElem?_set]
    split
    · exact Or.inr (by simp_all)
    · exact stage
  | waited other token' found live =>
    -- The token of the one that is kept out is cancelled, so the one that waits is somebody else.
    refine ⟨cancelled, ?_⟩
    rw [List.getElem?_set_ne]
    · exact stage
    · rintro rfl
      simp_all
  | admitted other token' gate found _ | timedOut other token' found _ | dropped other found =>
    -- None of these moves starts from a stage that the one that is kept out can be in.
    refine ⟨cancelled, ?_⟩
    rw [List.getElem?_set_ne]
    · exact stage
    · rintro rfl
      simp_all
  | cancelled other => exact ⟨Signals.isCancelled_cancel_of cancelled other, stage⟩

/-- What a gate does for its callers that admits at most so many of them. -/
structure Admits (most : Nat) (history : GateHistory) : Prop where
  /-- It counts those who have a permit, and there are never too many of them. -/
  balanced : history.gate.taken = history.holders ∧ history.holders ≤ most
  /-- Who does not wait gets a permit just if there are fewer holders. -/
  trying : ∃ next, history.move? .tryAcquire = some next ∧
    next.callers = history.callers ++ [if history.holders < most then .holding else .refused]
  /-- Who looks at its token and goes on at once gets what the gate says to its request. -/
  asking : ∀ place token, history.callers[place]? = some (.looking token) →
    match history.gate.request (history.signals.isCancelled token) with
    | .granted gate => history.play? [.goOn place, .goOn place] =
        some { history with gate, callers := history.callers.set place .holding }
    | .refused => history.play? [.goOn place] = some { history with callers := history.callers.set place .refused }
    | .wait => history.play? [.goOn place, .goOn place] = some history
  /-- Who comes with a token that is cancelled already never gets a permit. -/
  cancelled : ∀ token, history.signals.isCancelled token = true → ∀ rest last,
    history.play? (.acquire token :: rest) = some last →
    last.callers[history.callers.length]? = some (.looking token) ∨
      last.callers[history.callers.length]? = some .refused
  /-- Who waits with another token gets a permit as soon as there is one. -/
  waiting : ∀ place token, history.callers[place]? = some (.waiting token) → history.holders < most →
    ∃ next, history.move? (.goOn place) = some next ∧ next.callers = history.callers.set place .holding
  /-- Whoever has a permit can give it back, and then there is one holder less. -/
  returned : ∀ place, history.callers[place]? = some .holding → ∃ next, history.move? (.drop place) = some next ∧
    next.gate.taken + 1 = history.gate.taken ∧ next.holders + 1 = history.holders

/-- Who does not wait gets a permit just if one is left. -/
theorem Balanced.trying {most : Nat} (balanced : history.Balanced most) :
    ∃ next, history.move? .tryAcquire = some next ∧
      next.callers = history.callers ++ [if history.holders < most then .holding else .refused] := by
  rw [← balanced.taken, ← balanced.capacity]
  -- What is taken and what there is are the holders and the permits.
  by_cases free : history.gate.taken < history.gate.capacity
  · obtain ⟨gate, took⟩ := Gate.take?_isSome free
    exact ⟨_, by simp [move?, took]; rfl, by simp [free]⟩
  · have none : history.gate.take? = none := dif_neg free
    exact ⟨_, by simp [move?, none]; rfl, by simp [free]⟩

/-- Who looks at its token and goes on at once gets what the gate says to its request. -/
theorem play?_request {place : Nat} {token : CancelToken}
    (found : history.callers[place]? = some (.looking token)) :
    match history.gate.request (history.signals.isCancelled token) with
    | .granted gate => history.play? [.goOn place, .goOn place] =
        some { history with gate, callers := history.callers.set place .holding }
    | .refused => history.play? [.goOn place] = some { history with callers := history.callers.set place .refused }
    | .wait => history.play? [.goOn place, .goOn place] = some history := by
  obtain ⟨front, back, callers, changed⟩ := Run.split_of_getElem? found
  obtain ⟨inside, _⟩ := List.getElem?_eq_some_iff.mp found
  cases cancelled : history.signals.isCancelled token with
  -- A cancelled token is seen before the gate is asked.
  | true => simp [Gate.request, play?, move?, found, cancelled]
  | false =>
    -- First the caller looks, and then it waits.
    let middle : GateHistory := { history with callers := history.callers.set place (.waiting token) }
    have looked : history.move? (.goOn place) = some middle := by simp [move?, found, cancelled, middle]
    have waits : middle.callers[place]? = some (.waiting token) := by simp [middle, inside]
    cases took : history.gate.take? with
    | some gate =>
      -- Then there is a permit for it.
      have given : middle.move? (.goOn place) =
          some { middle with gate, callers := middle.callers.set place .holding } := by
        simp only [move?, waits]
        simp [middle, took]
      simp [Gate.request, took, play?, looked, given, middle]
    | none =>
      have broken : middle.move? (.goOn place) =
          some { middle with callers := middle.callers.set place (.looking token) } := by
        simp only [move?, waits]
        simp [middle, took]
      -- The caller is back where it was.
      have same : history.callers.set place (.looking token) = history.callers := by rw [changed, ← callers]
      simp [Gate.request, took, play?, looked, broken, middle, same]

/-- Who comes with a token that is cancelled already is kept out for good. -/
theorem keptOut_of_play? {token : CancelToken} (cancelled : history.signals.isCancelled token = true)
    (played : history.play? (.acquire token :: moves) = some last) : last.KeptOut token history.callers.length := by
  obtain ⟨next, moved, onward⟩ := Option.bind_eq_some_iff.mp played
  -- It comes last in the row of callers and has not looked yet.
  have first : next.KeptOut token history.callers.length := by
    cases moved
    exact ⟨cancelled, Or.inl (by simp)⟩
  exact play?_keeps (fun _ _ _ moved kept => KeptOut.step moved kept) onward first

/-- Whoever has a permit can give it back, and then there is one holder less. -/
theorem Balanced.returned {most place : Nat} (balanced : history.Balanced most)
    (found : history.callers[place]? = some .holding) :
    ∃ next, history.move? (.drop place) = some next ∧ next.gate.taken + 1 = history.gate.taken ∧
      next.holders + 1 = history.holders := by
  have moved : history.move? (.drop place) = some { history with
      gate := history.gate.release, callers := history.callers.set place .returned } := by simp [move?, found]
  have less : (history.callers.set place .returned).countP (· = .holding) + 1 = history.holders := by
    simpa [holders] using holders_set found .returned
  -- The permits stay balanced, so there is one permit less taken, too.
  have after := (balanced.step (move?_moved moved)).taken
  refine ⟨_, moved, ?_, less⟩
  rw [after, balanced.taken]
  exact less

/-- A gate whose permits are neither lost nor given out twice does all that. -/
theorem Balanced.admits {most : Nat} (balanced : history.Balanced most) : history.Admits most where
  balanced := ⟨balanced.taken, by
    rw [← balanced.taken, ← balanced.capacity]
    exact history.gate.bounded⟩
  trying := balanced.trying
  asking _ _ found := play?_request found
  cancelled _ cancelled _ _ played := (keptOut_of_play? cancelled played).2
  waiting place token found free := by
    rw [← balanced.taken, ← balanced.capacity] at free
    obtain ⟨gate, took⟩ := Gate.take?_isSome free
    exact ⟨_, by simp [move?, found, took]; rfl, rfl⟩
  returned _ found := balanced.returned found

end GateHistory

namespace Run

/-- What the gate of a run does for its workers. -/
structure Admits (most : Nat) (run : Run) : Prop where
  /-- No more modules are read at the same time. -/
  reading : run.readingCount ≤ most
  /-- No more modules have ever been read at the same time. -/
  peak : run.peak ≤ most
  /-- The permits that are given out are those that workers have. -/
  taken : run.gate.taken = run.holders
  /-- They are all given back when no batch is being read. -/
  settled : run.coordinator.isBusy = false → run.gate.taken = 0
  /-- They are all given back when all workers are gone. -/
  idle : run.isIdle = true → run.gate.taken = 0

/-- Whoever reads has a permit. -/
theorem readingCount_le_holders (run : Run) : run.readingCount ≤ run.holders := by
  unfold readingCount holders
  rw [← List.countP_eq_length_filter]
  -- Reading is one of the stages with a permit.
  refine List.countP_mono_left fun worker _ reading => ?_
  simp only [decide_eq_true_eq] at reading
  simp [reading, WorkerStage.holdsPermit]

/-- No more modules are read than there are permits. -/
theorem PermitsHeld.reading {run : Run} (held : run.PermitsHeld) : run.readingCount ≤ run.gate.capacity := by
  have reading := run.readingCount_le_holders
  -- The gate never gives more than it has.
  have taken := run.gate.bounded
  rw [held] at taken
  omega

end Run

namespace History

/-- What keeps a run from reading too many modules at the same time. -/
structure Bounded (most : Nat) (history : History) : Prop where
  /-- The stages fit the run. -/
  orderly : history.run.Orderly
  /-- The permits are with the workers. -/
  held : history.run.PermitsHeld
  /-- There are so many permits. -/
  capacity : history.run.gate.capacity = most
  /-- No more modules have been read at the same time. -/
  peak : history.run.peak ≤ most

variable {sources : ModuleSources} {before after : History} {move : Move} {most : Nat}

/-- Every move keeps the run from reading too many modules. -/
theorem Bounded.step (moved : before.Moved sources move after) (bounded : before.Bounded most) :
    after.Bounded most := by
  have orderly := moved.orderly bounded.orderly
  have held := permitsHeld_step moved bounded.orderly bounded.held
  -- Nothing changes how many permits there are; only a worker that is admitted touches the gate at all.
  have capacity : after.run.gate.capacity = most := by
    cases moved with
    | coordinator moved => cases moved <;> exact bounded.capacity
    | worker _ moved =>
      cases moved with
      | admitted _ _ _ gate _ free => exact (Gate.take?_capacity free).trans bounded.capacity
      | _ => exact bounded.capacity
    | consumer moved => cases moved <;> exact bounded.capacity
    | called _ => unfold Run.call; split <;> exact bounded.capacity
    | cancelled _ _ => exact bounded.capacity
  have reading := capacity ▸ held.reading
  refine ⟨orderly, held, capacity, ?_⟩
  -- Only a worker that starts to read can raise the peak, and it has a permit.
  cases moved with
  | coordinator moved => cases moved <;> exact bounded.peak
  | worker _ moved =>
    cases moved with
    | started front back path _ _ => exact Nat.max_le.mpr ⟨bounded.peak, reading⟩
    | _ => exact bounded.peak
  | consumer moved => cases moved <;> exact bounded.peak
  | called _ => unfold Run.call; split <;> exact bounded.peak
  | cancelled _ _ => exact bounded.peak

end History

/-- A gate keeps count of its permits however it is called, and so a run never reads more modules at the same time than
it may and has no permit given out between its batches. -/
theorem admits_at_most (capacity : Nat) :
    (∀ signals moves last, (GateHistory.start signals capacity).play? moves = some last →
      last.Admits (max capacity 1)) ∧
    ∀ sources signals token seed moves last,
      (History.start signals token seed capacity).play? sources moves = some last →
      last.run.Admits (max capacity 1) := by
  constructor
  · -- A gate by itself: the balance of permits and holders is kept from the start on.
    intro signals moves last played
    exact (GateHistory.play?_keeps (fun _ _ _ moved balanced => GateHistory.Balanced.step moved balanced) played
      (GateHistory.balanced_start signals capacity)).admits
  · -- A run: its workers are the holders, and what they read is bounded with them.
    intro sources signals token seed moves last played
    have initially : (History.start signals token seed capacity).Bounded (max capacity 1) :=
      ⟨Run.orderly_new signals token seed capacity, rfl, rfl, Nat.zero_le _⟩
    have bounded : last.Bounded (max capacity 1) :=
      History.play?_keeps (fun _ _ _ _ moved bounded => bounded.step moved) played initially
    exact
      { reading := bounded.capacity ▸ bounded.held.reading
        peak := bounded.peak
        taken := bounded.held
        settled := fun idle => by
          rw [bounded.held, Run.holders, (bounded.orderly.emptyHanded idle).1]
          rfl
        idle := fun idle => bounded.held.trans (Run.holders_idle idle) }

/-- A run of two modules at a time in which one cannot be read while a worker has a permit for the other one. -/
def leavesEarly : List Move :=
  List.flatten [[.call, .act .consumer], List.replicate 3 (.act .coordinator), List.replicate 5 (.act (.worker 0)),
    List.replicate 10 (.act .coordinator), List.replicate 2 (.act (.worker 1)), List.replicate 4 (.act (.worker 0)),
    List.replicate 3 (.act .coordinator), [.act (.worker 1), .act (.worker 0), .act (.worker 1)]]

/-- A permit that is free is not given to a caller who has been cancelled, and a worker that leaves early gives its
permit back. -/
theorem admits_none_after_cancel :
    (∃ last, (GateHistory.start ⟨[false]⟩ 0).play?
        [.tryAcquire, .tryAcquire, .cancel ⟨0, none⟩, .acquire ⟨0, none⟩, .drop 0, .goOn 2] = some last ∧
      last.callers = [.returned, .refused, .refused] ∧ last.Admits 1) ∧
    ∃ last, (History.start ⟨[false]⟩ ⟨0, none⟩ ⟨['a']⟩ 2).play?
        (.ofGraph [(⟨['a']⟩, [⟨['b']⟩, ⟨['c']⟩]), (⟨['c']⟩, [])] fun _ => .ok none) leavesEarly = some last ∧
      last.run.peak = 1 ∧ last.run.reads = [⟨['b']⟩, ⟨['a']⟩] ∧ last.run.isIdle = true ∧ last.run.Admits 2 := by
  -- Both parts are run step by step, and the theorem speaks about what is reached.
  have gates := (admits_at_most 0).1
  have runs := (admits_at_most 2).2
  constructor
  · have ran : ((GateHistory.start ⟨[false]⟩ 0).play?
        [.tryAcquire, .tryAcquire, .cancel ⟨0, none⟩, .acquire ⟨0, none⟩, .drop 0, .goOn 2]).any (fun last =>
          last.callers = [.returned, .refused, .refused]) = true := by
      decide
    obtain ⟨last, played, callers⟩ := (Option.any_eq_true ..).mp ran
    exact ⟨last, played, of_decide_eq_true callers, gates _ _ _ played⟩
  · have ran : ((History.start ⟨[false]⟩ ⟨0, none⟩ ⟨['a']⟩ 2).play?
        (.ofGraph [(⟨['a']⟩, [⟨['b']⟩, ⟨['c']⟩]), (⟨['c']⟩, [])] fun _ => .ok none) leavesEarly).any (fun last =>
          last.run.peak = 1 ∧ last.run.reads = [⟨['b']⟩, ⟨['a']⟩] ∧ last.run.isIdle = true) = true := by
      decide +kernel
    obtain ⟨last, played, facts⟩ := (Option.any_eq_true ..).mp ran
    obtain ⟨peak, reads, idle⟩ := of_decide_eq_true facts
    exact ⟨last, played, peak, reads, idle, runs _ _ _ _ _ _ played⟩

end ModuleScope
