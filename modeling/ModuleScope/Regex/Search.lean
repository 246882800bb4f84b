import ModuleScope.Regex.Basic

/-! Searching a text for a match, with sets of positions held in the bits of a number. -/

namespace ModuleScope.Regex

open Unicode (CharSet)

/-- A regex over one text: characters and assertions are given by the positions where they hold. -/
inductive Marked
  /-- Goes nowhere. -/
  | empty
  /-- Goes from each of these positions to the next one. -/
  | advance (positions : Nat)
  /-- Stays at these positions. -/
  | stay (positions : Nat)
  /-- Goes with the first and then with the second. -/
  | seq (first second : Marked)
  /-- Goes with either. -/
  | alt (left right : Marked)
  /-- Goes with `body` at least `low` times and at most `high` times. -/
  | rep (body : Marked) (low : Nat) (high : Option Nat)

/-- The positions of the characters for which `holds` is true, as bits of a number. -/
def charPositions (holds : Char → Bool) : List Char → Nat
  | [] => 0
  | c :: rest => 2 * charPositions holds rest + (holds c).toNat

/-- The positions at which an assertion holds, `before` being the character before the text. -/
def assertPositions (assertion : Assertion) (before : Option Char) : List Char → Nat
  | [] => (assertion.holdsBetween before none).toNat
  | c :: rest =>
    -- The first position lies between `before` and `c`.
    2 * assertPositions assertion (some c) rest + (assertion.holdsBetween before (some c)).toNat

/-- Replaces the characters and assertions of a regex by the positions where they hold. -/
def mark (charsAt : CharSet → Nat) (holdsAt : Assertion → Nat) : Regex → Marked
  | .empty => .empty
  | .oneOf set => .advance (charsAt set)
  | .assert assertion => .stay (holdsAt assertion)
  | .seq first second => .seq (mark charsAt holdsAt first) (mark charsAt holdsAt second)
  | .alt left right => .alt (mark charsAt holdsAt left) (mark charsAt holdsAt right)
  | .rep body low high => .rep (mark charsAt holdsAt body) low high
  | .capture body => mark charsAt holdsAt body

/-- The sets of characters in a regex. -/
def sets : Regex → List CharSet
  | .empty | .assert _ => []
  | .oneOf set => [set]
  | .seq first second => sets first ++ sets second
  | .alt left right => sets left ++ sets right
  | .rep body _ _ => sets body
  | .capture body => sets body

/-- The value that a table has for an argument, or the value of the function itself. -/
def lookupOr (f : CharSet → Nat) (table : List (CharSet × Nat)) (set : CharSet) : Nat :=
  (table.lookup set).getD (f set)

/-- A table of values of the function does not change them. -/
theorem lookupOr_table (f : CharSet → Nat) (arguments : List CharSet) (set : CharSet) :
    lookupOr f (arguments.map fun argument => (argument, f argument)) set = f set := by
  -- The first entry for the argument holds the value of the function there.
  unfold lookupOr
  induction arguments with
  | nil => rfl
  | cons argument rest ih =>
    rw [List.map_cons, List.lookup_cons]
    by_cases same : set = argument
    · simp [same]
    · have different : (set == argument) = false := by simpa using same
      rw [different]
      exact ih

/-- Applies `step` so many times, stopping early where it changes nothing. -/
def applyTimes (step : Nat → Nat) : Nat → Nat → Nat
  | 0, positions => positions
  | count + 1, positions =>
    -- A fixed point stays what it is however often the step is applied.
    let after := step positions
    if after = positions then positions else applyTimes step count after

/-- The positions of `reached` and those that at most `rounds` steps from `fresh` lead to. -/
def closeTimes (step : Nat → Nat) : Nat → (fresh reached : Nat) → Nat
  | 0, _, reached => reached
  | rounds + 1, fresh, reached =>
    -- Only positions not reached before can lead to new ones.
    let after := step fresh
    let new := after ^^^ (after &&& reached)
    if new = 0 then reached else closeTimes step rounds new (reached ||| new)

namespace Marked

/-- The positions that a match can stop at if it starts at one of the given ones in a text of `size` characters. -/
def stops (size : Nat) : Marked → Nat → Nat
  | empty, starts => starts
  | advance positions, starts => (starts &&& positions) <<< 1
  | stay positions, starts => starts &&& positions
  | seq first second, starts =>
    -- Nothing follows a part that does not match.
    let middle := stops size first starts
    if middle = 0 then 0 else stops size second middle
  | alt left right, starts => stops size left starts ||| stops size right starts
  | rep body low high, starts =>
    -- There are `size + 1` positions, so as many rounds reach all that can be reached.
    let least := applyTimes (stops size body) low starts
    closeTimes (stops size body) (high.elim (size + 1) (· - low)) least least

end Marked

/-- The regex with its characters and assertions replaced by the positions of a text where they hold. -/
def marked (regex : Regex) (text : List Char) : Marked :=
  -- A set that comes up again and again is looked for in the text only once.
  let charsAt := fun set : CharSet => charPositions set.contains text
  let table := regex.sets.eraseDups.map fun set => (set, charsAt set)
  mark (lookupOr charsAt table) (fun assertion => assertPositions assertion none text) regex

/-- Whether the regex matches somewhere in the text. -/
def isMatch (regex : Regex) (text : List Char) : Bool :=
  -- The search starts at all positions at once.
  (regex.marked text).stops text.length (Nat.pow 2 (text.length + 1) - 1) ≠ 0

end ModuleScope.Regex
