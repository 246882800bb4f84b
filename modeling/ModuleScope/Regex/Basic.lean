import ModuleScope.Unicode.Property

/-! Regular expressions over characters, and the parts of a text that they match. -/

namespace ModuleScope

open Unicode (CharSet)

/-- How a position may lie with respect to words. -/
inductive WordEdge
  /-- A word starts or ends here. -/
  | boundary
  /-- No word starts or ends here. -/
  | inside
  /-- A word starts here. -/
  | start
  /-- A word ends here. -/
  | finish
  /-- No word character comes before. -/
  | startHalf
  /-- No word character comes after. -/
  | finishHalf
deriving DecidableEq, Repr

/-- A condition on a position of a text. -/
inductive Assertion
  /-- The start of the text. -/
  | textStart
  /-- The end of the text. -/
  | textEnd
  /-- The start of a line; with `crlf` a carriage return ends a line too, and the pair ends one line. -/
  | lineStart (crlf : Bool)
  /-- The end of a line. -/
  | lineEnd (crlf : Bool)
  /-- A position with respect to words, whose characters may be confined to those below 128. -/
  | word (edge : WordEdge) (ascii : Bool)
deriving DecidableEq, Repr

/-- A regular expression. -/
inductive Regex
  /-- Matches the empty text. -/
  | empty
  /-- Matches one character of a set. -/
  | oneOf (set : CharSet)
  /-- Matches the empty text where the assertion holds. -/
  | assert (assertion : Assertion)
  /-- Matches the first and then the second. -/
  | seq (first second : Regex)
  /-- Matches either. -/
  | alt (left right : Regex)
  /-- Matches `body` at least `low` times in a row and, if there is a `high`, at most that often. -/
  | rep (body : Regex) (low : Nat) (high : Option Nat)
  /-- Matches as `body` does and remembers where. -/
  | capture (body : Regex)
deriving DecidableEq, Repr

namespace WordEdge

/-- Whether the edge is there, given whether the characters on its two sides belong to words. -/
def Holds (edge : WordEdge) (before after : Bool) : Bool :=
  -- A position at the end of the text has no word character on that side.
  match edge with
  | boundary => before != after
  | inside => before == after
  | start => !before && after
  | finish => before && !after
  | startHalf => !before
  | finishHalf => !after

end WordEdge

/-- Whether a character belongs to words. -/
def isWordChar (ascii : Bool) (c : Char) : Bool :=
  -- Below 128 these are the letters, the digits and the underscore.
  if ascii then c.isAlphanum || c = '_' else Unicode.wordSet.contains c

namespace Assertion

/-- Whether the assertion holds between the characters `before` and `after`, if there are such. -/
def holdsBetween (assertion : Assertion) (before after : Option Char) : Bool :=
  -- Every assertion looks at no more than the two neighbours of a position.
  match assertion with
  | textStart => before.isNone
  | textEnd => after.isNone
  | lineStart false => before.isNone || before == some '\n'
  | lineEnd false => after.isNone || after == some '\n'
  | lineStart true =>
    before.isNone || before == some '\n' || (before == some '\r' && after != some '\n')
  | lineEnd true =>
    after.isNone || after == some '\r' || (after == some '\n' && before != some '\r')
  | word edge ascii => edge.Holds (before.any (isWordChar ascii)) (after.any (isWordChar ascii))

/-- Whether the assertion holds at a position of a text. -/
def holdsAt (assertion : Assertion) (text : List Char) (position : Nat) : Bool :=
  -- Position zero has no character before it.
  assertion.holdsBetween (if position = 0 then none else text[position - 1]?) text[position]?

end Assertion

/-- The `count`-fold composition of a relation between positions. -/
def Iterate (step : Nat → Nat → Prop) : Nat → Nat → Nat → Prop
  | 0, start, stop => start = stop
  | count + 1, start, stop => ∃ middle, step start middle ∧ Iterate step count middle stop

namespace Regex

/-- The regex matches the part of `text` between the positions `start` and `stop`. -/
def Spans (text : List Char) : Regex → Nat → Nat → Prop
  | empty, start, stop => start = stop ∧ start ≤ text.length
  | oneOf set, start, stop => ∃ c, text[start]? = some c ∧ set.contains c = true ∧ stop = start + 1
  | assert assertion, start, stop =>
    start = stop ∧ start ≤ text.length ∧ assertion.holdsAt text start = true
  | seq first second, start, stop => ∃ middle, Spans text first start middle ∧ Spans text second middle stop
  | alt left right, start, stop => Spans text left start stop ∨ Spans text right start stop
  | rep body low high, start, stop =>
    ∃ count, low ≤ count ∧ (∀ most, high = some most → count ≤ most) ∧
      start ≤ text.length ∧ Iterate (Spans text body) count start stop
  | capture body, start, stop => Spans text body start stop

/-- The regex matches somewhere in the text. -/
def Occurs (regex : Regex) (text : List Char) : Prop :=
  -- The match may start and stop anywhere.
  ∃ start stop, Spans text regex start stop

/-- The regex of a word, character after character. -/
def literal : List Char → Regex
  | [] => empty
  | c :: rest => seq (oneOf (.single c)) (literal rest)

end Regex

end ModuleScope
