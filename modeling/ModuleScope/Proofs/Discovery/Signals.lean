import ModuleScope.Proofs.Discovery.History

/-! Raising signals: what has been raised stays raised, and nothing else changes. -/

namespace ModuleScope

namespace Signals

/-- A signal that has been raised stays raised when another one is. -/
theorem isRaised_raise_of {signals : Signals} {signal : Nat} (raised : signals.isRaised signal = true)
    (other : Nat) : (signals.raise other).isRaised signal = true := by
  -- Setting an entry leaves it or makes it true.
  unfold isRaised raise at *
  rw [List.getElem?_set]
  split
  · rename_i same
    subst same
    split
    · rfl
    · -- A signal that does not exist could not have been raised.
      rename_i outside
      rw [List.getElem?_eq_none (by omega)] at raised
      exact raised
  · exact raised

/-- A signal that is there is raised by raising it. -/
theorem isRaised_raise_self {signals : Signals} {signal : Nat} (inside : signal < signals.raised.length) :
    (signals.raise signal).isRaised signal = true := by
  simp [isRaised, raise, inside]

/-- Raising a signal changes no other signal. -/
theorem isRaised_raise_ne {signals : Signals} {signal other : Nat} (different : other ≠ signal) :
    (signals.raise other).isRaised signal = signals.isRaised signal := by
  unfold isRaised raise
  rw [List.getElem?_set_ne different]

/-- A token that is cancelled stays cancelled when another one is. -/
theorem isCancelled_cancel_of {signals : Signals} {token : CancelToken}
    (cancelled : signals.isCancelled token = true) (other : CancelToken) :
    (signals.cancel other).isCancelled token = true := by
  -- One of its two signals has been raised.
  unfold isCancelled at *
  rcases Bool.or_eq_true_iff.mp cancelled with own | parent
  · simp [cancel, isRaised_raise_of own]
  · -- Without a parent it cannot have been the signal of that.
    cases above : token.parent with
    | none => simp [above] at parent
    | some signal =>
      simp only [above, Option.any_some] at parent
      simp [cancel, isRaised_raise_of parent]

/-- A token is cancelled when its own signal is raised or the one that it sees besides. -/
theorem isCancelled_cancel_seen {signals : Signals} {token other : CancelToken}
    (known : other.own < signals.raised.length) (seen : other.own = token.own ∨ token.parent = some other.own) :
    (signals.cancel other).isCancelled token = true := by
  unfold isCancelled cancel
  -- The signal that is raised is one of the two that are looked at.
  rcases seen with same | parent
  · rw [← same, isRaised_raise_self known]
    rfl
  · simp [parent, isRaised_raise_self known]

/-- Cancelling a token changes nothing for a token that does not see its signal. -/
theorem isCancelled_cancel_ne {signals : Signals} {token other : CancelToken}
    (apart : other.own ≠ token.own) (above : token.parent ≠ some other.own) :
    (signals.cancel other).isCancelled token = signals.isCancelled token := by
  -- Neither of its two signals is raised.
  unfold isCancelled cancel
  rw [isRaised_raise_ne apart]
  cases parent : token.parent with
  | none => rfl
  | some signal =>
    have different : other.own ≠ signal := fun same => above (by rw [parent, same])
    simp [isRaised_raise_ne different]

/-- A token that is made later changes nothing for a token that sees older signals only. -/
theorem isCancelled_childToken {signals : Signals} {token : CancelToken} (other : CancelToken)
    (own : token.own < signals.raised.length)
    (above : ∀ parent, token.parent = some parent → parent < signals.raised.length) :
    (signals.childToken other).2.isCancelled token = signals.isCancelled token := by
  -- The new signal comes after the older ones.
  have older : ∀ signal < signals.raised.length,
      (signals.childToken other).2.isRaised signal = signals.isRaised signal := by
    intro signal inside
    simp [childToken, isRaised, List.getElem?_append_left inside]
  unfold isCancelled
  rw [older _ own]
  cases parent : token.parent with
  | none => rfl
  | some signal => simp [older signal (above signal parent)]

end Signals

namespace History

/-- A move raises the signal of the stop token or that of the token that is cancelled, or none. -/
theorem Moved.signals {sources : ModuleSources} {before after : History} {move : Move}
    (moved : before.Moved sources move after) :
    after.signals = before.signals ∨ after.signals = before.signals.cancel before.run.stop ∨
      ∃ token, move = .cancel token ∧ after.signals = before.signals.cancel token := by
  cases moved with
  | coordinator moved =>
    cases moved with
    -- These steps of the coordinator stop the workers, and so does any end for the consumer.
    | weighedCancelled _ _ _ | refused _ _ | abandoned _ _ _ => exact Or.inr (Or.inl rfl)
    | _ => exact Or.inl rfl
  | worker _ moved => exact Or.inl rfl
  | consumer moved =>
    cases moved with
    | cancelled _ _ | failed _ _ _ _ | finished _ _ _ _ | deserted _ _ _ => exact Or.inr (Or.inl rfl)
    | _ => exact Or.inl rfl
  | called resting => exact Or.inl rfl
  | cancelled token foreign => exact Or.inr (Or.inr ⟨token, rfl, rfl⟩)

/-- The token of the run is not cancelled, and its stop token has a certain signal. -/
structure Live (token : CancelToken) (signal : Nat) (history : History) : Prop where
  /-- The token is not cancelled. -/
  going : history.signals.isCancelled token = false
  /-- The run has the token. -/
  same : history.run.token = token
  /-- The stop token has the signal. -/
  stop : history.run.stop.own = signal

/-- A token that is not cancelled stays so if nobody cancels it or the one that it was made from. -/
theorem live_of_calm {sources : ModuleSources} {signals : Signals} {token : CancelToken} {seed : Path}
    {limit : Nat} {moves : List Move} {last : History}
    (live : signals.isCancelled token = false) (own : token.own < signals.raised.length)
    (above : ∀ parent, token.parent = some parent → parent < signals.raised.length)
    (calm : ∀ other, .cancel other ∈ moves → other.own ≠ token.own ∧ token.parent ≠ some other.own)
    (played : (start signals token seed limit).play? sources moves = some last) :
    last.signals.isCancelled last.run.token = false := by
  -- The stop token that the run makes for itself has the newest signal.
  have initially : Live token signals.raised.length (start signals token seed limit) :=
    ⟨(Signals.isCancelled_childToken token own above).trans live, rfl, rfl⟩
  have afterwards : Live token signals.raised.length last := by
    refine play?_keeps (fun move member before after moved known => ?_) played initially
    refine ⟨?_, moved.sameRun.token.trans known.same, by rw [moved.sameRun.stop, known.stop]⟩
    rcases moved.signals with still | stopped | ⟨other, rfl, raised⟩
    · rw [still, known.going]
    · -- The signal of the stop token is newer than those that the token sees.
      have newest := known.stop
      rw [stopped, Signals.isCancelled_cancel_ne (by omega) ?_, known.going]
      intro parent
      have older := above _ parent
      omega
    · -- Whoever cancels something leaves these two signals alone.
      have foreign := calm other member
      rw [raised, Signals.isCancelled_cancel_ne foreign.1 foreign.2, known.going]
  rw [afterwards.same, afterwards.going]

end History

end ModuleScope
