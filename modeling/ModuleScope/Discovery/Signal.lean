/-! Signals that tell a run to stop, and the tokens through which they are given and seen. -/

namespace ModuleScope

/-- A token: the signal that it raises and sees, and the signal of the token that it was made from. -/
structure CancelToken where
  /-- The signal that is raised when the token is cancelled. -/
  own : Nat
  /-- The signal of its parent, which it sees too. -/
  parent : Option Nat
deriving DecidableEq, Repr

/-- All signals, by number: whether each has been raised. -/
structure Signals where
  /-- Whether the signal has been raised. -/
  raised : List Bool := []
deriving DecidableEq, Repr

namespace Signals

/-- Whether a signal has been raised. -/
def isRaised (signals : Signals) (signal : Nat) : Bool := signals.raised[signal]?.getD false

/-- Raises a signal, which nothing takes back. -/
def raise (signals : Signals) (signal : Nat) : Signals := ⟨signals.raised.set signal true⟩

/-- A token with a signal of its own. -/
def newToken (signals : Signals) : CancelToken × Signals :=
  (⟨signals.raised.length, none⟩, ⟨signals.raised ++ [false]⟩)

/-- A token with a signal of its own that also sees the signal of another token. -/
def childToken (signals : Signals) (token : CancelToken) : CancelToken × Signals :=
  -- What the other token sees besides its own signal is not passed on.
  (⟨signals.raised.length, some token.own⟩, ⟨signals.raised ++ [false]⟩)

/-- Cancels a token. -/
def cancel (signals : Signals) (token : CancelToken) : Signals := signals.raise token.own

/-- Whether a token is cancelled. -/
def isCancelled (signals : Signals) (token : CancelToken) : Bool :=
  signals.isRaised token.own || token.parent.any signals.isRaised

end Signals

end ModuleScope
