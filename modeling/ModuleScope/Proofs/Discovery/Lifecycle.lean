import ModuleScope.Proofs.Discovery.Completeness
import ModuleScope.Proofs.Discovery.Responses

/-! What calls say about a run: where it stands before and after them, and that a cancelled run yields nothing more. -/

namespace ModuleScope

/-- A run may stand where it stood, or go on from there: it starts once, and it ends once. -/
inductive RunState.Follows : RunState → RunState → Prop
  /-- The run stands where it stood. -/
  | same {state : RunState} : Follows state state
  /-- The run starts. -/
  | started : Follows .idle .draining
  /-- The run ends. -/
  | ended {state : RunState} (ends : state.hasEnded = true) : Follows .draining state

/-- A run that has ended stands where it stood. -/
theorem RunState.Follows.stays {before after : RunState} (follows : before.Follows after)
    (ended : before.hasEnded = true) : after = before := by
  cases follows with
  | same => rfl
  | started => cases ended
  | ended _ => cases ended

namespace History

variable {sources : ModuleSources} {before history after last : History} {move : Move} {moves : List Move}

/-- A move starts the run, ends it or leaves it where it stands. -/
theorem Moved.follows (moved : before.Moved sources move after) (orderly : before.run.Orderly) :
    before.run.state.Follows after.run.state := by
  cases moved with
  | coordinator moved => cases moved <;> exact .same
  | worker _ moved => cases moved <;> exact .same
  | consumer moved =>
    cases moved with
    | waited _ _ | timedOut _ _ _ | received _ _ _ _ | answered _ _ _ => exact .same
    | cancelled stage _ =>
      -- With each of these answers the consumer ends a run that was draining.
      rw [orderly.asks (Or.inl stage)]
      exact .ended rfl
    | failed _ _ stage _ | deserted stage _ _ =>
      rw [orderly.asks (Or.inr stage)]
      exact .ended rfl
    | finished state _ stage events =>
      rw [orderly.asks (Or.inr stage)]
      exact .ended (orderly.ended events)
  | called _ =>
    unfold Run.call
    split
    · -- Only the first call starts anything.
      rename_i idle
      rw [idle]
      exact .started
    all_goals exact .same
  | cancelled _ _ => exact .same

/-- A run that has ended stays where it stands, whatever happens. -/
theorem ended_for_good (orderly : before.run.Orderly) (ended : before.run.state.hasEnded = true)
    (played : before.play? sources moves = some after) : after.run.state = before.run.state := by
  have both : after.run.Orderly ∧ after.run.state = before.run.state := by
    refine @play?_keeps sources (fun history => history.run.Orderly ∧ history.run.state = before.run.state) moves
      before after ?_ played ⟨orderly, rfl⟩
    -- Every move follows the life cycle, and after the end that has one stage only.
    intro _ _ one next moved known
    exact ⟨moved.orderly known.1, ((moved.follows known.1).stays (known.2 ▸ ended)).trans known.2⟩
  exact both.2

/-- Nothing but a call starts a run. -/
theorem Moved.idle (moved : before.Moved sources move after) (orderly : before.run.Orderly)
    (idle : before.run.state = .idle) (other : move ≠ .call) : after.run.state = .idle := by
  cases moved with
  -- There is no coordinator yet.
  | coordinator moved => exact absurd idle (orderly.not_idle moved)
  | worker _ moved =>
    -- A worker leaves the state alone.
    rw [moved.frame]
    exact idle
  | consumer moved =>
    -- The consumer rests before the first call.
    have resting : before.run.consumer = .resting := by rw [orderly.untouched idle]
    cases moved <;> simp_all
  | called _ => exact absurd rfl other
  | cancelled _ _ => exact idle

/-- Without a call a run stays as it was made. -/
theorem untouched_of_uncalled (orderly : before.run.Orderly) (idle : before.run.state = .idle)
    (uncalled : .call ∉ moves) (played : before.play? sources moves = some after) :
    after.run.state = .idle ∧ after.run.Untouched := by
  have both : after.run.Orderly ∧ after.run.state = .idle := by
    refine @play?_keeps sources (fun history => history.run.Orderly ∧ history.run.state = .idle) moves before after ?_
      played ⟨orderly, idle⟩
    -- None of the moves is a call, so none of them starts the run.
    intro move member _ _ moved known
    exact ⟨moved.orderly known.1, moved.idle known.1 known.2 fun same => uncalled (same ▸ member)⟩
  exact ⟨both.2, both.1.untouched both.2⟩

/-- As many signals as there were are there, and those that have been raised stay so. -/
structure Kept (before after : History) : Prop where
  /-- No signal is made or lost. -/
  length : after.signals.raised.length = before.signals.raised.length
  /-- A token that is cancelled stays so. -/
  cancelled : ∀ token, before.signals.isCancelled token = true → after.signals.isCancelled token = true

/-- What is kept by some moves and then by others is kept by all of them. -/
theorem Kept.trans {middle : History} (first : before.Kept middle) (second : middle.Kept after) : before.Kept after :=
  ⟨second.length.trans first.length, fun token cancelled => second.cancelled token (first.cancelled token cancelled)⟩

/-- A move keeps all signals. -/
theorem Moved.kept (moved : before.Moved sources move after) : before.Kept after := by
  -- A move raises at most one signal.
  rcases moved.signals with still | stopped | ⟨other, _, raised⟩
  · exact ⟨by rw [still], fun _ cancelled => by rw [still, cancelled]⟩
  · exact ⟨by simp [stopped, Signals.cancel, Signals.raise],
      fun _ cancelled => by rw [stopped, Signals.isCancelled_cancel_of cancelled]⟩
  · exact ⟨by simp [raised, Signals.cancel, Signals.raise],
      fun _ cancelled => by rw [raised, Signals.isCancelled_cancel_of cancelled]⟩

/-- So do several moves. -/
theorem kept_of_play? (played : before.play? sources moves = some after) : before.Kept after :=
  play?_keeps (fun _ _ _ _ moved kept => kept.trans moved.kept) played ⟨rfl, fun _ cancelled => cancelled⟩

/-- What a call may be answered with, and where the run stands then, if the call was made in a certain history. -/
structure MayAnswer (before : History) (answer : Option ModuleOutcome) (state : RunState) : Prop where
  /-- A module is answered only by a run that goes on. -/
  found : ∀ module, answer = some (.ok module) → state = .draining
  /-- An error is answered only when the run faults. -/
  failed : ∀ error, answer = some (.error error) → before.run.state.hasEnded = false ∧ state = .faulted
  /-- Nothing is answered only when the run has ended. -/
  finished : answer = none → state.hasEnded = true
  /-- A run that had ended before answers nothing more. -/
  silent : before.run.state.hasEnded = true → answer = none ∧ state = before.run.state
  /-- A run whose token was cancelled before answers nothing more, and it is cancelled unless it had ended. -/
  stopped : before.signals.isCancelled before.run.token = true →
    answer = none ∧ (before.run.state.hasEnded = false → state = .cancelled)

/-- A run that had neither ended nor been cancelled may give any answer that fits where it stands then. -/
theorem MayAnswer.of_going {answer : Option ModuleOutcome} {state : RunState}
    (going : before.run.state.hasEnded = false) (live : before.signals.isCancelled before.run.token = false)
    (found : ∀ module, answer = some (.ok module) → state = .draining)
    (failed : ∀ error, answer = some (.error error) → state = .faulted)
    (finished : answer = none → state.hasEnded = true) : before.MayAnswer answer state where
  found := found
  failed error same := ⟨going, failed error same⟩
  finished := finished
  silent ended := by cases going.symm.trans ended
  stopped cancelled := by cases live.symm.trans cancelled

/-- What is known while a call is under way that was made in a certain history, and when it has been answered. -/
def UnderCall (before history : History) : Prop :=
  match history.run.consumer with
  | .checking => history.answers = before.answers ∧ before.run.state.hasEnded = false
  | .receiving => history.answers = before.answers ∧ before.run.state.hasEnded = false ∧
      before.signals.isCancelled before.run.token = false
  | .joining answer => history.answers = before.answers ∧ before.MayAnswer answer history.run.state
  | .resting => ∃ answer, history.answers = before.answers ++ [answer] ∧ before.MayAnswer answer history.run.state

/-- A call looks at the token, unless the run has ended. -/
theorem underCall_call (before : History) : before.UnderCall { before with run := before.run.call } := by
  -- A run that has ended has nothing to answer any more.
  have silent : before.run.state.hasEnded = true → before.MayAnswer none before.run.state := fun ended =>
    { found := by simp
      failed := by simp
      finished := fun _ => ended
      silent := fun _ => ⟨rfl, rfl⟩
      stopped := fun _ => ⟨rfl, fun going => by cases ended.symm.trans going⟩ }
  unfold UnderCall Run.call
  cases state : before.run.state with
  -- Otherwise the consumer is now about to look at the token.
  | idle | draining => exact ⟨rfl, rfl⟩
  | completed | faulted | cancelled =>
    rw [state] at silent
    exact ⟨rfl, silent rfl⟩

/-- What happens aside makes no difference to a call. -/
theorem UnderCall.aside (under : before.UnderCall history) (aside : history.Aside after) : before.UnderCall after := by
  unfold UnderCall
  rw [aside.consumer, aside.answers, aside.state]
  exact under

/-- A step of the consumer leads to an answer that may be given. -/
theorem UnderCall.consumer {signals : Signals} {run : Run} {answer : Option (Option ModuleOutcome)}
    (moved : Run.ConsumerMoved history.signals history.run signals run answer) (orderly : history.run.Orderly)
    (kept : before.signals.isCancelled before.run.token = true → history.signals.isCancelled history.run.token = true)
    (under : before.UnderCall history) :
    before.UnderCall { history with signals, run, answers := history.answers ++ answer.toList } := by
  unfold UnderCall at under
  cases moved with
  | cancelled stage _ =>
    -- The look at the token is what ends the run here.
    simp only [stage] at under
    obtain ⟨answers, going⟩ := under
    refine ⟨by simpa using answers, ⟨by simp, by simp, fun _ => rfl, fun ended => ?_, fun _ => ⟨rfl, fun _ => rfl⟩⟩⟩
    cases going.symm.trans ended
  | waited stage live =>
    simp only [stage] at under
    refine ⟨by simpa using under.1, under.2, ?_⟩
    -- A token that had been cancelled before the call would still be.
    by_contra cancelled
    cases live.symm.trans (kept (by simpa using cancelled))
  | received module rest stage _ =>
    -- A module leaves the run where it stands.
    simp only [stage] at under
    obtain ⟨answers, going, live⟩ := under
    have draining := orderly.asks (Or.inr stage)
    exact ⟨_, by rw [answers]; rfl, .of_going going live (fun _ _ => draining) (by simp) (by simp)⟩
  | failed error rest stage _ =>
    -- Each of these events ends it.
    simp only [stage] at under
    obtain ⟨answers, going, live⟩ := under
    exact ⟨by simpa using answers, .of_going going live (by simp) (fun _ _ => rfl) (by simp)⟩
  | finished state rest stage events =>
    simp only [stage] at under
    obtain ⟨answers, going, live⟩ := under
    exact ⟨by simpa using answers, .of_going going live (by simp) (by simp) fun _ => orderly.ended events⟩
  | deserted stage _ _ =>
    simp only [stage] at under
    obtain ⟨answers, going, live⟩ := under
    exact ⟨by simpa using answers, .of_going going live (by simp) (by simp) fun _ => rfl⟩
  | timedOut stage _ _ =>
    -- The consumer looks at the token again.
    simp only [stage] at under
    exact ⟨by simpa using under.1, under.2.1⟩
  | answered answer stage gone =>
    -- What was held back is now answered.
    simp only [stage] at under
    exact ⟨answer, by rw [under.1]; rfl, under.2⟩

/-- Every move but another call leads to an answer that may be given. -/
theorem UnderCall.step (moved : history.Moved sources move after) (other : move ≠ .call)
    (orderly : history.run.Orderly)
    (kept : before.signals.isCancelled before.run.token = true → history.signals.isCancelled history.run.token = true)
    (under : before.UnderCall history) : before.UnderCall after := by
  cases moved with
  | coordinator moved => exact under.aside (aside_coordinator history moved)
  | worker _ moved => exact under.aside (aside_worker history moved).1
  | consumer moved => exact under.consumer moved orderly kept
  | called _ => exact absurd rfl other
  | cancelled _ _ => exact under.aside ⟨rfl, rfl, rfl, rfl⟩

/-- A call that has been answered has been answered as it may be. -/
theorem answered_of_call (orderly : before.run.Orderly) (only : .call ∉ moves)
    (played : before.play? sources (.call :: moves) = some after) (resting : after.run.consumer = .resting) :
    ∃ answer, after.answers = before.answers ++ [answer] ∧ before.MayAnswer answer after.run.state := by
  obtain ⟨called, moved, played⟩ := Option.bind_eq_some_iff.mp played
  -- The call is under way from its first move on, and it has come to rest in the end.
  have all : after.run.Orderly ∧ before.Kept after ∧ before.SameRun after ∧ before.UnderCall after := by
    refine @play?_keeps sources (fun history => history.run.Orderly ∧ before.Kept history ∧ before.SameRun history ∧
      before.UnderCall history) moves called after ?_ played ?_
    · -- What is known of the call is kept by every move that is no other call.
      intro move member one next moved ⟨orderly, kept, same, under⟩
      refine ⟨moved.orderly orderly, kept.trans moved.kept, same.trans moved.sameRun, ?_⟩
      refine under.step moved (fun call => only (call ▸ member)) orderly fun cancelled => ?_
      rw [same.token]
      exact kept.cancelled _ cancelled
    · have first := move?_moved moved
      refine ⟨first.orderly orderly, first.kept, first.sameRun, ?_⟩
      cases first with
      | called _ => exact underCall_call before
  have under := all.2.2.2
  rw [UnderCall, resting] at under
  exact under

/-- A token is cancelled once it or a token that it sees has been. -/
theorem cancelled_of_mem {token other : CancelToken} (member : .cancel other ∈ moves)
    (known : other.own < before.signals.raised.length)
    (seen : other.own = token.own ∨ token.parent = some other.own)
    (played : before.play? sources moves = some after) : after.signals.isCancelled token = true := by
  -- The token is cancelled by the move itself and stays so afterwards.
  obtain ⟨first, rest, rfl⟩ := List.append_of_mem member
  rw [play?_append] at played
  obtain ⟨middle, played, later⟩ := Option.bind_eq_some_iff.mp played
  obtain ⟨next, moved, later⟩ := Option.bind_eq_some_iff.mp later
  have there : other.own < middle.signals.raised.length := (kept_of_play? played).length ▸ known
  apply (kept_of_play? later).cancelled
  cases move?_moved moved with
  | cancelled _ _ => exact Signals.isCancelled_cancel_seen there seen

/-- What is known of a run whose token was cancelled while its consumer rested. -/
structure Silenced (before history : History) : Prop where
  /-- The token is still cancelled. -/
  kept : before.Kept history
  /-- The run has the same token. -/
  same : before.SameRun history
  /-- The consumer waits for no event. -/
  stage : history.run.consumer = .resting ∨ history.run.consumer = .checking ∨ history.run.consumer = .joining none
  /-- Nothing has been answered since. -/
  answers : ∃ later, history.answers = before.answers ++ List.replicate later none

/-- A run that has been silenced stays so. -/
theorem Silenced.step (cancelled : before.signals.isCancelled before.run.token = true)
    (moved : history.Moved sources move after) (silenced : before.Silenced history) : before.Silenced after := by
  obtain ⟨kept, same, stage, later, answers⟩ := silenced
  have kept' := kept.trans moved.kept
  have same' := same.trans moved.sameRun
  -- The consumer never gets to wait for an event.
  cases moved with
  | coordinator moved =>
    have aside := aside_coordinator history moved
    exact ⟨kept', same', aside.consumer ▸ stage, later, aside.answers.trans answers⟩
  | worker _ moved =>
    have aside := (aside_worker history moved).1
    exact ⟨kept', same', aside.consumer ▸ stage, later, aside.answers.trans answers⟩
  | consumer moved =>
    cases moved with
    | cancelled _ _ => exact ⟨kept', same', Or.inr (Or.inr rfl), later, by simpa using answers⟩
    | waited _ live =>
      have seen := kept.cancelled _ cancelled
      rw [← same.token] at seen
      cases live.symm.trans seen
    | received _ _ waits _ | failed _ _ waits _ | finished _ _ waits _ | deserted waits _ _ | timedOut waits _ _ =>
      simp [waits] at stage
    | answered answer joining _ =>
      have none : answer = none := by simpa [joining] using stage
      exact ⟨kept', same', Or.inl rfl, later + 1, by simp [none, answers, List.replicate_succ']⟩
  | called _ =>
    -- Another call looks at the token first, as this one did.
    refine ⟨kept', same', ?_, later, answers⟩
    unfold Run.call
    split <;> simp
  | cancelled _ _ => exact ⟨kept', same', stage, later, answers⟩

/-- Once the token of a run is cancelled, all later calls are answered with nothing. -/
theorem answers_of_cancelled (cancelled : before.signals.isCancelled before.run.token = true)
    (resting : before.run.consumer = .resting) (played : before.play? sources moves = some after) :
    ∃ later, after.answers = before.answers ++ List.replicate later none := by
  have initially : before.Silenced before :=
    ⟨⟨rfl, fun _ cancelled => cancelled⟩, .refl before, Or.inl resting, 0, by simp⟩
  exact (play?_keeps (fun _ _ _ _ moved silenced => Silenced.step cancelled moved silenced) played initially).answers

/-- What a run does for its calls, after certain moves. -/
structure Lifecycle (sources : ModuleSources) (moves : List Move) (history : History) : Prop where
  /-- Before the first call the run is idle and reads nothing. -/
  lazy : .call ∉ moves → history.run.state = .idle ∧ history.run.reads = []
  /-- The run starts once and ends once. -/
  follows : ∀ move next, history.move? sources move = some next → history.run.state.Follows next.run.state
  /-- A run that has ended stays where it stands. -/
  forGood : history.run.state.hasEnded = true → ∀ rest last, history.play? sources rest = some last →
    last.run.state = history.run.state
  /-- Modules are answered, then an error perhaps, and then nothing any more. -/
  answers : ∃ (error? : Option ModuleFailure) (later : Nat), history.answers =
    modulesOnly history.answers ++ error?.toList.map (fun error => some (.error error)) ++ List.replicate later none
  /-- The run sees that its token or one above it has been cancelled. -/
  cancelled : ∀ other, .cancel other ∈ moves →
    other.own = history.run.token.own ∨ history.run.token.parent = some other.own →
    history.signals.isCancelled history.run.token = true
  /-- A call is answered as the state before it and after it allows. -/
  call : ∀ during last, .call ∉ during → history.play? sources (.call :: during) = some last →
    last.run.consumer = .resting →
    ∃ answer, last.answers = history.answers ++ [answer] ∧ history.MayAnswer answer last.run.state
  /-- A call can be answered. -/
  answerable : history.run.consumer = .resting → ∃ (actors : List Run.Actor) (last : History),
    history.play? sources (.call :: actors.map .act) = some last ∧ last.run.consumer = .resting

/-- However a run is scheduled and whenever it is cancelled, its calls are answered like that. -/
theorem follows_lifecycle {signals : Signals} {token : CancelToken} {seed : Path} {limit : Nat}
    (own : token.own < signals.raised.length)
    (above : ∀ parent, token.parent = some parent → parent < signals.raised.length)
    (played : (start signals token seed limit).play? sources moves = some last) : last.Lifecycle sources moves := by
  obtain ⟨sound, same⟩ := sound_of_play? played
  have steady := steady_of_play? played
  have given : last.run.token = token := same.token
  refine ⟨fun uncalled => ?_, fun _ _ moved => (move?_moved moved).follows sound.orderly,
    fun ended _ _ => ended_for_good sound.orderly ended, ?_, fun other member seen => ?_,
    fun _ _ only => answered_of_call sound.orderly only, fun resting => ?_⟩
  · obtain ⟨idle, untouched⟩ := untouched_of_uncalled (Run.orderly_new signals token seed limit) rfl uncalled played
    exact ⟨idle, by rw [untouched]⟩
  · obtain ⟨error?, later, told⟩ := sound.endings.told
    exact ⟨error?, later, told.answers⟩
  · rw [given] at seen ⊢
    have known : other.own < (start signals token seed limit).signals.raised.length := by
      -- The token was there before the run made its own.
      have older : other.own < signals.raised.length := by
        rcases seen with mine | parent
        · exact mine ▸ own
        · exact above _ parent
      simp only [start, Run.new, Signals.childToken, List.length_append, List.length_singleton]
      omega
    exact cancelled_of_mem member known seen played
  · have moved := @move?_call sources last resting
    obtain ⟨final, _, ⟨actors, acted⟩, done, _⟩ := (steady.step (move?_moved moved)).answerable last.run.call_asks
    exact ⟨actors, final, by rw [play?, moved]; exact acted, done⟩

/-- A module is waiting to be received when the token is cancelled that the token of the run was made from. -/
def cancelledUnreceived : List Move :=
  List.flatten [[.call, .act .consumer], List.replicate 3 (.act .coordinator), List.replicate 5 (.act (.worker 0)),
    List.replicate 4 (.act .coordinator), [.act .consumer], List.replicate 6 (.act .coordinator),
    List.replicate 5 (.act (.worker 0)), List.replicate 4 (.act .coordinator), [.cancel ⟨0, none⟩]]

/-- A call during which the consumer waits until the coordinator has closed its batch and is gone. -/
def lastCall : List Move :=
  .call :: .act .consumer :: List.replicate 3 (.act .coordinator) ++ [.act .consumer]

/-- The next call is answered with nothing although the module is there, and the run is cancelled. -/
theorem cancelled_run_yields_nothing :
    let sources : ModuleSources := .ofGraph [(⟨['a']⟩, [⟨['b']⟩]), (⟨['b']⟩, [])] fun _ => .ok none
    ∃ before last, (start ⟨[false, false]⟩ ⟨1, some 0⟩ ⟨['a']⟩ 2).play? sources cancelledUnreceived = some before ∧
      (answeredModules before.answers).map (·.path) = [⟨['a']⟩] ∧
      (sentModules before.run.events).map (·.path) = [⟨['b']⟩] ∧
      before.play? sources lastCall = some last ∧ last.answers = before.answers ++ [none] ∧
      last.run.state = .cancelled := by
  intro sources
  have ran : ((start ⟨[false, false]⟩ ⟨1, some 0⟩ ⟨['a']⟩ 2).play? sources cancelledUnreceived).any (fun before =>
      before.run.state = .draining ∧ (answeredModules before.answers).map (·.path) = [⟨['a']⟩] ∧
      (sentModules before.run.events).map (·.path) = [⟨['b']⟩] ∧
      (before.play? sources lastCall).any (fun last => (last.move? sources .call).isSome)) = true := by
    decide +kernel
  obtain ⟨before, played, facts⟩ := (Option.any_eq_true ..).mp ran
  obtain ⟨draining, answered, sent, rest⟩ := of_decide_eq_true facts
  obtain ⟨last, onward, more⟩ := (Option.any_eq_true ..).mp rest
  -- The consumer could call once more.
  have resting := resting_of_call more
  have lifecycle := follows_lifecycle (by decide) (by simp) played
  have given : before.run.token = ⟨1, some 0⟩ := (sound_of_play? played).2.token
  have cancelled := lifecycle.cancelled ⟨0, none⟩ (by simp [cancelledUnreceived]) (Or.inr (by rw [given]))
  obtain ⟨answer, answers, may⟩ := lifecycle.call _ last (by simp) onward resting
  obtain ⟨rfl, ended⟩ := may.stopped cancelled
  exact ⟨before, last, played, answered, sent, onward, answers, ended (by rw [draining]; rfl)⟩

end History

end ModuleScope
