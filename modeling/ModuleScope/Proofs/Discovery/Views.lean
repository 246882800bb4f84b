import ModuleScope.Proofs.Discovery.Signals

/-! What a run sees of all signals: where they look alike to it, it does the same. -/

namespace ModuleScope

/-- A signal is there on both sides, and it has been raised on both or on neither. -/
structure Signals.AgreeOn (left right : Signals) (signal : Nat) : Prop where
  /-- It is there on the left. -/
  inLeft : signal < left.raised.length
  /-- It is there on the right. -/
  inRight : signal < right.raised.length
  /-- It has been raised on both sides or on neither. -/
  same : left.isRaised signal = right.isRaised signal

namespace Signals.AgreeOn

variable {left right : Signals} {signal other : Nat}

/-- The signals that a side has and the other one does not may be raised. -/
theorem raise_left (agree : left.AgreeOn right signal) (apart : other ≠ signal) :
    (left.raise other).AgreeOn right signal where
  inLeft := by simpa [Signals.raise] using agree.inLeft
  inRight := agree.inRight
  same := (isRaised_raise_ne apart).trans agree.same

/-- A signal may be raised on both sides. -/
theorem raise (agree : left.AgreeOn right signal) (other : Nat) :
    (left.raise other).AgreeOn (right.raise other) signal where
  inLeft := by simpa [Signals.raise] using agree.inLeft
  inRight := by simpa [Signals.raise] using agree.inRight
  same := by
    -- The signal in question is raised on both sides or on neither.
    by_cases same : other = signal
    · rw [same, isRaised_raise_self agree.inLeft, isRaised_raise_self agree.inRight]
    · rw [isRaised_raise_ne same, isRaised_raise_ne same, agree.same]

/-- A side may get one more signal. -/
theorem add_left (agree : left.AgreeOn right signal) : (Signals.mk (left.raised ++ [false])).AgreeOn right signal where
  inLeft := by simpa using Nat.lt_succ_of_lt agree.inLeft
  inRight := agree.inRight
  same := by
    unfold isRaised
    rw [List.getElem?_append_left agree.inLeft]
    exact agree.same

/-- Both sides may be seen the other way round. -/
theorem symm (agree : left.AgreeOn right signal) : right.AgreeOn left signal :=
  ⟨agree.inRight, agree.inLeft, agree.same.symm⟩

/-- A signal that is there is on both sides if the sides are the same. -/
theorem refl {signals : Signals} (inside : signal < signals.raised.length) : signals.AgreeOn signals signal :=
  ⟨inside, inside, rfl⟩

end Signals.AgreeOn

namespace Run

/-- All that a run sees of the signals is the same on both sides. -/
structure SeesAlike (run : Run) (left right : Signals) : Prop where
  /-- The signal of the caller's token is. -/
  token : left.AgreeOn right run.token.own
  /-- So is the one that the caller's token sees besides. -/
  above : ∀ parent, run.token.parent = some parent → left.AgreeOn right parent
  /-- So is the signal of the stop token. -/
  stop : left.AgreeOn right run.stop.own
  /-- The stop token sees the signal of the caller's. -/
  child : run.stop.parent = some run.token.own

namespace SeesAlike

variable {run run' : Run} {left right left' right' : Signals}

/-- Whatever keeps signals alike keeps what a run sees alike. -/
theorem imp (alike : run.SeesAlike left right)
    (agree : ∀ signal, left.AgreeOn right signal → left'.AgreeOn right' signal) : run.SeesAlike left' right' where
  token := agree _ alike.token
  above parent same := agree _ (alike.above parent same)
  stop := agree _ alike.stop
  child := alike.child

/-- Both sides may be seen the other way round. -/
theorem symm (alike : run.SeesAlike left right) : run.SeesAlike right left where
  token := alike.token.symm
  above parent same := (alike.above parent same).symm
  stop := alike.stop.symm
  child := alike.child

/-- A run with the same tokens sees the same. -/
theorem of_tokens (alike : run.SeesAlike left right) (same : run'.token = run.token ∧ run'.stop = run.stop) :
    run'.SeesAlike left right where
  token := same.1 ▸ alike.token
  above := same.1 ▸ alike.above
  stop := same.2 ▸ alike.stop
  child := by rw [same.1, same.2, alike.child]

/-- The caller's token is cancelled on both sides or on neither. -/
theorem cancelled (alike : run.SeesAlike left right) : right.isCancelled run.token = left.isCancelled run.token := by
  unfold Signals.isCancelled
  rw [alike.token.same]
  cases parent : run.token.parent with
  | none => rfl
  | some signal => simp [(alike.above signal parent).same]

/-- So is the stop token. -/
theorem stopped (alike : run.SeesAlike left right) : right.isCancelled run.stop = left.isCancelled run.stop := by
  simp [Signals.isCancelled, alike.stop.same, alike.child, alike.token.same]

/-- A token may be cancelled on both sides. -/
theorem cancel (alike : run.SeesAlike left right) (token : CancelToken) :
    run.SeesAlike (left.cancel token) (right.cancel token) :=
  alike.imp fun _ agree => agree.raise token.own

/-- A token whose signal the run does not see may be cancelled on one side. -/
theorem cancel_left (alike : run.SeesAlike left right) {token : CancelToken} (own : token.own ≠ run.token.own)
    (above : run.token.parent ≠ some token.own) (stop : token.own ≠ run.stop.own) :
    run.SeesAlike (left.cancel token) right where
  token := alike.token.raise_left own
  above parent same := (alike.above parent same).raise_left fun seen => above (seen ▸ same)
  stop := alike.stop.raise_left stop
  child := alike.child

end SeesAlike

variable {run run' : Run} {left right left' : Signals}

/-- The coordinator does the same on both sides, and it stops the workers on both or on neither. -/
theorem coordinatorStep_alike (alike : run.SeesAlike left right)
    (stepped : run.coordinatorStep left = some (left', run')) :
    left' = left ∧ run.coordinatorStep right = some (right, run') ∨
      left' = left.cancel run.stop ∧ run.coordinatorStep right = some (right.cancel run.stop, run') := by
  have cancelled := alike.cancelled
  have stopped := alike.stopped
  -- The step depends on the run and on whether its two tokens are cancelled, and on nothing else.
  cases coordinatorStep_moved stepped with
  | weighedCancelled _ stage seen =>
    -- These three steps stop the workers.
    exact Or.inr ⟨rfl, by simp [coordinatorStep, stage, cancelled, seen]⟩
  | refused _ stage => exact Or.inr ⟨rfl, by simp [coordinatorStep, stage]⟩
  | abandoned _ stage deaf => exact Or.inr ⟨rfl, by simp [coordinatorStep, stage, deaf]⟩
  | _ =>
    left
    refine ⟨rfl, ?_⟩
    simp_all [coordinatorStep]

/-- A worker does the same on both sides. -/
theorem workerStep_alike {sources : ModuleSources} {index : Nat} (alike : run.SeesAlike left right) :
    run.workerStep sources right index = run.workerStep sources left index := by
  unfold workerStep
  simp only [alike.stopped]

/-- The consumer does the same on both sides, and it stops the workers on both or on neither. -/
theorem consumerStep_alike {answer : Option (Option ModuleOutcome)} (alike : run.SeesAlike left right)
    (stepped : run.consumerStep left = some ((left', run'), answer)) :
    left' = left ∧ run.consumerStep right = some ((right, run'), answer) ∨
      left' = left.cancel run.stop ∧ run.consumerStep right = some ((right.cancel run.stop, run'), answer) := by
  have cancelled := alike.cancelled
  -- Whatever ends the run for its consumer stops the workers.
  cases consumerStep_moved stepped with
  | cancelled _ _ | failed _ _ _ _ | finished _ _ _ _ | deserted _ _ _ =>
    right
    refine ⟨rfl, ?_⟩
    simp_all [consumerStep, finish]
  | _ =>
    left
    refine ⟨rfl, ?_⟩
    simp_all [consumerStep]

/-- Whoever takes part does the same on both sides, and stops the workers on both or on neither. -/
theorem step_alike {sources : ModuleSources} {actor : Actor} {answer : Option (Option ModuleOutcome)}
    (alike : run.SeesAlike left right) (stepped : run.step sources actor left = some ((left', run'), answer)) :
    left' = left ∧ run.step sources actor right = some ((right, run'), answer) ∨
      left' = left.cancel run.stop ∧ run.step sources actor right = some ((right.cancel run.stop, run'), answer) := by
  cases actor with
  | coordinator =>
    obtain ⟨⟨left', run'⟩, took, same⟩ := Option.map_eq_some_iff.mp stepped
    cases same
    rcases coordinatorStep_alike alike took with ⟨rfl, other⟩ | ⟨rfl, other⟩
    · exact Or.inl ⟨rfl, by simp [step, other]⟩
    · exact Or.inr ⟨rfl, by simp [step, other]⟩
  | worker index =>
    -- A worker raises no signal.
    obtain ⟨run', took, same⟩ := Option.map_eq_some_iff.mp stepped
    cases same
    exact Or.inl ⟨rfl, by simp [step, workerStep_alike alike, took]⟩
  | consumer => exact consumerStep_alike alike stepped

/-- Whoever takes part has a step to take on both sides or on neither. -/
theorem isSome_step_alike {sources : ModuleSources} {actor : Actor} (alike : run.SeesAlike left right) :
    (run.step sources actor right).isSome = (run.step sources actor left).isSome := by
  -- What can be done on one side can be done on the other.
  have onward : ∀ one other, run.SeesAlike one other → (run.step sources actor one).isSome = true →
      (run.step sources actor other).isSome = true := by
    intro one other alike some
    obtain ⟨result, stepped⟩ := Option.isSome_iff_exists.mp some
    rcases step_alike alike stepped with ⟨_, other⟩ | ⟨_, other⟩ <;> rw [other] <;> rfl
  exact Bool.eq_iff_iff.mpr ⟨onward right left alike.symm, onward left right alike⟩

end Run

end ModuleScope
