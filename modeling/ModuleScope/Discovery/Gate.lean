/-! A gate that admits only so many holders at a time. -/

namespace ModuleScope

/-- A gate and the permits that it has given out. -/
structure Gate where
  /-- How many holders it admits. -/
  capacity : Nat
  /-- How many permits are given out. -/
  taken : Nat := 0
  /-- At least one holder is admitted. -/
  positive : 0 < capacity
  /-- No more permits are given out than holders are admitted. -/
  bounded : taken ≤ capacity := by omega
deriving DecidableEq, Repr

namespace Gate

/-- A gate that admits so many holders, but at least one. -/
def new (capacity : Nat) : Gate :=
  { capacity := max capacity 1, positive := Nat.lt_of_lt_of_le Nat.one_pos (Nat.le_max_right ..) }

/-- Takes a permit, if one is left. -/
def take? (gate : Gate) : Option Gate :=
  if free : gate.taken < gate.capacity then
    some { gate with taken := gate.taken + 1, bounded := free }
  else none

/-- Gives a permit back. -/
def release (gate : Gate) : Gate :=
  { gate with
    taken := gate.taken - 1
    bounded := Nat.le_trans (Nat.sub_le ..) gate.bounded }

/-- What comes of asking for a permit. -/
inductive Admission
  /-- The permit is given. -/
  | granted (gate : Gate)
  /-- The one who asks has been cancelled. -/
  | refused
  /-- There is no permit now. -/
  | wait

/-- Asks for a permit; who has been cancelled gets none. -/
def request (gate : Gate) (cancelled : Bool) : Admission :=
  -- Being cancelled is noticed even if a permit is left.
  if cancelled then .refused
  else
    match gate.take? with
    | some gate => .granted gate
    | none => .wait

end Gate

end ModuleScope
