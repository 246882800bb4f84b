import ModuleScope.Proofs.Discovery.Lineage

/-! Several runs side by side, which share their sources and may share tokens. -/

namespace ModuleScope

/-- A run among others. -/
structure FleetMember where
  /-- The run. -/
  run : Run
  /-- The answers to its calls, first answer first. -/
  answers : List (Option ModuleOutcome) := []
  /-- Whether its consumer has gone away. -/
  dropped : Bool := false

/-- All runs that were started with one limit, and the tokens that callers have. -/
structure Fleet where
  /-- All signals. -/
  signals : Signals := {}
  /-- The tokens that callers have. -/
  tokens : List CancelToken := []
  /-- How many modules each run may read at the same time. -/
  limit : Nat
  /-- The runs, first run first. -/
  members : List FleetMember := []

/-- What can happen next in a fleet. -/
inductive FleetMove
  /-- A caller makes a token. -/
  | makeToken
  /-- A caller makes a token from another one. -/
  | makeChild (token : CancelToken)
  /-- A caller starts a run. -/
  | launch (token : CancelToken) (seed : Path)
  /-- Somebody who takes part in a run takes a step. -/
  | act (place : Nat) (actor : Run.Actor)
  /-- The consumer of a run asks for the next module. -/
  | call (place : Nat)
  /-- The consumer of a run goes away. -/
  | drop (place : Nat)
  /-- A caller cancels a token. -/
  | cancel (token : CancelToken)

namespace FleetMove

/-- The move is made by the run at a certain place or by its consumer. -/
def IsBy (place : Nat) : FleetMove → Prop
  | act other _ | call other | drop other => other = place
  | _ => False

/-- What a move is for the run at a certain place, if it is anything. -/
def alone (place : Nat) : FleetMove → Option Move
  | act other actor => if other = place then some (.act actor) else none
  | call other => if other = place then some .call else none
  | cancel token => some (.cancel token)
  | _ => none

/-- A step of the run itself is a step alone. -/
@[simp] theorem alone_act (place : Nat) (actor : Run.Actor) : (act place actor).alone place = some (.act actor) :=
  if_pos rfl

/-- So is a call. -/
@[simp] theorem alone_call (place : Nat) : (call place).alone place = some .call := if_pos rfl

/-- What others do is nothing for the run, unless it is a cancellation. -/
theorem alone_other {place : Nat} {move : FleetMove} (other : ¬move.IsBy place) (kept : ∀ token, move ≠ cancel token) :
    move.alone place = none := by
  cases move with
  | makeToken | makeChild _ | launch _ _ | drop _ => rfl
  | act _ _ | call _ => exact if_neg other
  | cancel token => exact absurd rfl (kept token)

/-- Only a cancellation is a cancellation for the run. -/
theorem cancel_of_alone {place : Nat} {move : FleetMove} {token : CancelToken}
    (alone : move.alone place = some (.cancel token)) : move = cancel token := by
  cases move with
  | makeToken | makeChild _ | launch _ _ | drop _ => cases alone
  | act _ _ | call _ =>
    -- What one run does is another move for it, or none for the others.
    dsimp only [FleetMove.alone] at alone
    split at alone <;> cases alone
  | cancel other =>
    cases alone
    rfl

end FleetMove

namespace Fleet

/-- The fleet after a move, if the move is possible. -/
def move? (sources : ModuleSources) (fleet : Fleet) : FleetMove → Option Fleet
  | .makeToken =>
    let (token, signals) := fleet.signals.newToken
    some { fleet with signals, tokens := fleet.tokens ++ [token] }
  | .makeChild parent =>
    if parent ∈ fleet.tokens then
      let (token, signals) := fleet.signals.childToken parent
      some { fleet with signals, tokens := fleet.tokens ++ [token] }
    else none
  | .launch token seed =>
    -- Nobody but the run itself has its stop token.
    if token ∈ fleet.tokens then
      let (run, signals) := Run.new fleet.signals token seed fleet.limit
      some { fleet with signals, members := fleet.members ++ [{ run }] }
    else none
  | .act place actor =>
    fleet.members[place]?.bind fun member =>
      (member.run.step sources actor fleet.signals).map fun after =>
        let next := { member with run := after.1.2, answers := member.answers ++ after.2.toList }
        { fleet with signals := after.1.1, members := fleet.members.set place next }
  | .call place =>
    fleet.members[place]?.bind fun member =>
      match member.dropped, member.run.consumer with
      | false, .resting => some { fleet with members := fleet.members.set place { member with run := member.run.call } }
      | _, _ => none
  | .drop place =>
    fleet.members[place]?.bind fun member =>
      match member.dropped, member.run.consumer with
      | false, .resting =>
        let (signals, run) := member.run.drop fleet.signals
        some { fleet with signals, members := fleet.members.set place { member with run, dropped := true } }
      | _, _ => none
  | .cancel token => if token ∈ fleet.tokens then some { fleet with signals := fleet.signals.cancel token } else none

/-- The fleet after several moves, if all of them are possible. -/
def play? (sources : ModuleSources) (fleet : Fleet) : List FleetMove → Option Fleet
  | [] => some fleet
  | move :: rest => (fleet.move? sources move).bind fun next => next.play? sources rest

/-- What a move does in a fleet. -/
inductive Moved (sources : ModuleSources) (fleet : Fleet) : FleetMove → Fleet → Prop
  /-- A token is made. -/
  | made : Moved sources fleet .makeToken
      { fleet with signals := fleet.signals.newToken.2, tokens := fleet.tokens ++ [fleet.signals.newToken.1] }
  /-- A token is made from another one. -/
  | madeChild (parent : CancelToken) (known : parent ∈ fleet.tokens) :
      Moved sources fleet (.makeChild parent)
        { fleet with
          signals := (fleet.signals.childToken parent).2
          tokens := fleet.tokens ++ [(fleet.signals.childToken parent).1] }
  /-- A run is started. -/
  | launched (token : CancelToken) (seed : Path) (known : token ∈ fleet.tokens) :
      Moved sources fleet (.launch token seed)
        { fleet with
          signals := (Run.new fleet.signals token seed fleet.limit).2
          members := fleet.members ++ [{ run := (Run.new fleet.signals token seed fleet.limit).1 }] }
  /-- Somebody takes a step. -/
  | acted {place : Nat} {actor : Run.Actor} {member : FleetMember} {signals : Signals} {run : Run}
      {answer : Option (Option ModuleOutcome)} (found : fleet.members[place]? = some member)
      (stepped : member.run.step sources actor fleet.signals = some ((signals, run), answer)) :
      Moved sources fleet (.act place actor)
        { fleet with
          signals
          members := fleet.members.set place { member with run, answers := member.answers ++ answer.toList } }
  /-- A consumer asks for the next module. -/
  | called {place : Nat} {member : FleetMember} (found : fleet.members[place]? = some member)
      (there : member.dropped = false) (resting : member.run.consumer = .resting) :
      Moved sources fleet (.call place)
        { fleet with members := fleet.members.set place { member with run := member.run.call } }
  /-- A consumer goes away. -/
  | dropped {place : Nat} {member : FleetMember} (found : fleet.members[place]? = some member)
      (there : member.dropped = false) (resting : member.run.consumer = .resting) :
      Moved sources fleet (.drop place)
        { fleet with
          signals := (member.run.drop fleet.signals).1
          members := fleet.members.set place { member with run := (member.run.drop fleet.signals).2, dropped := true } }
  /-- A token is cancelled. -/
  | cancelled (token : CancelToken) (known : token ∈ fleet.tokens) :
      Moved sources fleet (.cancel token) { fleet with signals := fleet.signals.cancel token }

variable {sources : ModuleSources} {fleet next last : Fleet} {move : FleetMove} {moves : List FleetMove}

/-- Nothing else can happen in one move. -/
theorem move?_moved (moved : fleet.move? sources move = some next) : fleet.Moved sources move next := by
  unfold move? at moved
  cases move with
  -- A token can always be made.
  | makeToken =>
    cases moved
    exact .made
  | makeChild parent =>
    -- A child is made only of a token that is known.
    dsimp only at moved
    split at moved <;> cases moved
    exact .madeChild parent ‹_›
  | launch token seed =>
    -- A run is started only with a token that is known.
    dsimp only at moved
    split at moved <;> cases moved
    exact .launched token seed ‹_›
  | act place actor =>
    obtain ⟨member, found, moved⟩ := Option.bind_eq_some_iff.mp moved
    -- The run takes the step among the signals of all runs.
    obtain ⟨⟨⟨signals, run⟩, answer⟩, stepped, rfl⟩ := Option.map_eq_some_iff.mp moved
    exact .acted found stepped
  | call place =>
    -- A call is made by a consumer that is there and rests.
    obtain ⟨member, found, moved⟩ := Option.bind_eq_some_iff.mp moved
    split at moved <;> cases moved
    exact .called found ‹_› ‹_›
  | drop place =>
    -- A consumer goes away between its calls, and once.
    obtain ⟨member, found, moved⟩ := Option.bind_eq_some_iff.mp moved
    split at moved <;> cases moved
    exact .dropped found ‹_› ‹_›
  | cancel token =>
    dsimp only at moved
    split at moved <;> cases moved
    exact .cancelled token ‹_›

/-- What every move keeps holds after any number of moves. -/
theorem play?_keeps {Holds : Fleet → Prop}
    (step : ∀ move before after, before.Moved sources move after → Holds before → Holds after)
    (played : fleet.play? sources moves = some last) (initially : Holds fleet) : Holds last := by
  -- The moves are made one after the other.
  induction moves generalizing fleet with
  | nil =>
    cases played
    exact initially
  | cons move rest ih =>
    obtain ⟨next, moved, played⟩ := Option.bind_eq_some_iff.mp played
    exact ih played (step move fleet next (move?_moved moved) initially)

/-- All runs have the same limit. -/
theorem limit_of_play? (played : fleet.play? sources moves = some last) : last.limit = fleet.limit := by
  -- No move touches the limit.
  refine @play?_keeps sources fleet last moves (fun next => next.limit = fleet.limit) ?_ played rfl
  intro move before after moved same
  cases moved <;> exact same

/-- A step of a run changes neither its tokens nor any signal but that of its stop token. -/
theorem step_spares {actor : Run.Actor} {signals signals' : Signals} {run run' : Run}
    {answer : Option (Option ModuleOutcome)}
    (stepped : run.step sources actor signals = some ((signals', run'), answer)) :
    (run'.token = run.token ∧ run'.stop = run.stop) ∧ (signals' = signals ∨ signals' = signals.cancel run.stop) := by
  -- A step makes the same difference to all signals as it does when the run is alone.
  have moved := History.move?_moved (@History.move?_act sources { signals, run } _ _ _ _ stepped)
  refine ⟨⟨moved.sameRun.token, moved.sameRun.stop⟩, ?_⟩
  rcases moved.signals with still | stopped | ⟨_, other, _⟩
  · exact Or.inl still
  · exact Or.inr stopped
  · cases other

/-- A call changes no token of the run. -/
theorem call_spares (run : Run) : run.call.token = run.token ∧ run.call.stop = run.stop := by
  unfold Run.call
  -- All that a call changes is the state, the queue and the stages.
  split <;> exact ⟨rfl, rfl⟩

/-- What a move of a run or of its consumer may change, `member` being the run before it and `member'` after it. -/
structure Touched (fleet next : Fleet) (place : Nat) (member member' : FleetMember) : Prop where
  /-- The run is there. -/
  found : fleet.members[place]? = some member
  /-- No other run changes. -/
  members : next.members = fleet.members.set place member'
  /-- No caller gets a token. -/
  tokens : next.tokens = fleet.tokens
  /-- The run keeps its tokens. -/
  same : member'.run.token = member.run.token ∧ member'.run.stop = member.run.stop
  /-- No signal is raised but that of its stop token. -/
  signals : next.signals = fleet.signals ∨ next.signals = fleet.signals.cancel member.run.stop
  /-- A consumer that has gone away stays away. -/
  away : member.dropped = true → member'.dropped = true

/-- A run and its consumer change nothing else. -/
theorem Moved.touched (moved : fleet.Moved sources move next) {place : Nat} (own : move.IsBy place) :
    ∃ member member', fleet.Touched next place member member' := by
  cases moved with
  -- The moves of callers are not made by a run.
  | made | madeChild _ _ | launched _ _ _ | cancelled _ _ => cases own
  | acted found stepped =>
    cases own
    obtain ⟨same, signals⟩ := step_spares stepped
    exact ⟨_, _, found, rfl, rfl, same, signals, fun away => away⟩
  | called found _ _ =>
    cases own
    exact ⟨_, _, found, rfl, rfl, call_spares _, Or.inl rfl, fun away => away⟩
  | dropped found _ _ =>
    -- Going away cancels the stop token of the run.
    cases own
    exact ⟨_, _, found, rfl, rfl, ⟨rfl, rfl⟩, Or.inr rfl, fun _ => rfl⟩

/-- The consumer of a run has gone away. -/
def Left (fleet : Fleet) (place : Nat) : Prop := ∃ member, fleet.members[place]? = some member ∧ member.dropped = true

/-- A run stays what it is while others move. -/
theorem Moved.member (moved : fleet.Moved sources move next) {place : Nat} {member : FleetMember}
    (found : fleet.members[place]? = some member) (other : ¬move.IsBy place) :
    next.members[place]? = some member := by
  cases moved with
  | made | madeChild _ _ | cancelled _ _ => exact found
  -- A new run comes behind all others.
  | launched _ _ _ => exact getElem?_snoc.mpr (Or.inl found)
  | acted _ _ | called _ _ _ | dropped _ _ _ => exact (List.getElem?_set_ne other).trans found

/-- A consumer that has gone away does not come back. -/
theorem Left.step {place : Nat} (left : fleet.Left place) (moved : fleet.Moved sources move next) :
    next.Left place := by
  obtain ⟨member, found, away⟩ := left
  -- What is left of the run may still move, but no move brings its consumer back.
  by_cases own : move.IsBy place
  · obtain ⟨before, after, touched⟩ := moved.touched own
    obtain rfl : before = member := Option.some.inj (touched.found.symm.trans found)
    refine ⟨after, ?_, touched.away away⟩
    rw [touched.members, List.getElem?_set_self (List.getElem?_eq_some_iff.mp found).1]
  · exact ⟨member, moved.member found own, away⟩

/-- It does not come back later either. -/
theorem Left.play {place : Nat} (left : fleet.Left place) (played : fleet.play? sources moves = some last) :
    last.Left place :=
  @play?_keeps sources fleet last moves (fun next => next.Left place) (fun _ _ _ moved left => left.step moved)
    played left

end Fleet

end ModuleScope
