import ModuleScope.Regex.Basic
import ModuleScope.Unicode.ByteRanges

/-! The room that the automaton of a regular expression takes, for the limit on its size. -/

namespace ModuleScope.Regex

open Unicode (CharSet ByteRange)

/-- The bytes that a state takes. -/
def stateBytes : Nat := 32

/-- The bytes that a range of a state with several ranges takes. -/
def rangeBytes : Nat := 8

/-- The bytes that one way out of a fork takes. -/
def branchBytes : Nat := 4

/-- The bytes that the automata for reading forwards and backwards may take each. -/
def sizeLimit : Nat := 10 * 1024 * 1024

/-- Puts sequences that start with the same range together. -/
def groupByHead : List (List ByteRange) → List (ByteRange × List (List ByteRange))
  | [] => []
  | [] :: rest => groupByHead rest
  | (range :: tail) :: rest =>
    -- Equal ranges stand side by side.
    match groupByHead rest with
    | (next, tails) :: groups =>
      if next = range then (range, tail :: tails) :: groups
      else (range, [tail]) :: (next, tails) :: groups
    | [] => [(range, [tail])]

/-- The sets of sequences that remain to be read at the states of an automaton. -/
def statesFrom : Nat → List (List ByteRange) → List (List (List ByteRange))
  | 0, _ => []
  | depth + 1, sequences =>
    -- States where the same sequences remain are one state.
    let after := ((groupByHead sequences).map Prod.snd).filter fun tails => tails ≠ [[]]
    sequences :: (after.eraseDups.map (statesFrom depth)).flatten

/-- The bytes of the states that read one character of a set. -/
def setForward (set : CharSet) : Nat :=
  -- Characters of one byte need one state with a range each; other sets share the ends of their encodings.
  match set.onlyCode? with
  | some code => stateBytes * (Unicode.encodeCode code).length
  | none =>
    if set.isAscii then 2 * stateBytes + rangeBytes * set.ranges.length
    else
      (statesFrom 4 set.byteSequences).eraseDups.foldl
        (fun sum state => sum + stateBytes + rangeBytes * (groupByHead state).length) stateBytes

/-- The states that read encoded characters backwards, which share the starts of the encodings. -/
def prefixCount : Nat → List (List ByteRange) → Nat
  | 0, _ => 0
  | depth + 1, sequences =>
    -- Every group is a state of its own.
    (groupByHead sequences).foldl (fun sum group => sum + 1 + prefixCount depth group.2) 0

/-- The bytes of the states that read one character of a set backwards. -/
def setBackward (set : CharSet) : Nat :=
  -- Only the sets with longer encodings differ, and they have a fork with a branch for each sequence.
  if set.onlyCode?.isSome || set.isAscii then setForward set
  else
    let sequences := set.byteSequences
    2 * stateBytes + branchBytes * sequences.length + stateBytes * prefixCount 4 sequences

/-- The room that a part of an expression takes. -/
structure Footprint where
  /-- The bytes of its states. -/
  bytes : Nat
  /-- The number of branches that it adds to a choice. -/
  branches : Nat := 1
  /-- The bytes of these branches. -/
  inner : Nat := bytes
  /-- The characters that it matches, if it always matches just one. -/
  only : Option CharSet := none
  /-- Whether it may match the empty text. -/
  nullable : Bool := false
  /-- Whether it matches nothing but the empty text. -/
  still : Bool := false
  /-- Whether it has no states of its own in a sequence. -/
  absent : Bool := false

namespace Footprint

/-- The room of one character of a set. -/
def ofSet (cost : CharSet → Nat) (set : CharSet) : Footprint :=
  -- The cost depends on the direction of reading.
  { bytes := cost set, only := some set }

/-- The room of a sequence. -/
def seq (first second : Footprint) : Footprint :=
  -- Parts without states are left out.
  if first.absent then second
  else if second.absent then first
  else
    { bytes := first.bytes + second.bytes
      nullable := first.nullable && second.nullable
      still := first.still && second.still }

/-- The room of a choice. -/
def alt (cost : CharSet → Nat) (left right : Footprint) : Footprint :=
  -- A choice between single characters is a set; others are a fork and a join around the branches.
  match left.only, right.only with
  | some a, some b => ofSet cost (a.union b)
  | _, _ =>
    let branches := left.branches + right.branches
    let inner := left.inner + right.inner
    { bytes := 2 * stateBytes + branchBytes * branches + inner, branches, inner
      nullable := left.nullable || right.nullable
      still := left.still && right.still }

/-- The bytes of a fork with two ways out. -/
def forkBytes : Nat := stateBytes + 2 * branchBytes

/-- The room of a repetition. -/
def rep (body : Footprint) (low : Nat) (high : Option Nat) : Footprint :=
  -- What is not read need not be repeated more than once.
  let low := if body.still then min low 1 else low
  let high := if body.still then some (min (high.getD 1) 1) else high
  if high = some 0 then { bytes := stateBytes, nullable := true, still := true, absent := true }
  else if low = 1 && high = some 1 then body
  else
    let copies := if low = 0 then stateBytes else low * body.bytes
    let bytes :=
      match low, high with
      | 0, none =>
        if body.nullable then body.bytes + 2 * forkBytes + stateBytes else body.bytes + forkBytes
      | _, none => copies + forkBytes
      | 0, some 1 => body.bytes + forkBytes + stateBytes
      | _, some most =>
        if low = most then copies else copies + stateBytes + (most - low) * (body.bytes + forkBytes)
    { bytes, nullable := low = 0 || body.nullable, still := body.still }

/-- The room of an expression, given the cost of a set and that of a group. -/
def ofRegex (cost : CharSet → Nat) (group : Nat) : Regex → Footprint
  | .empty => { bytes := stateBytes, nullable := true, still := true, absent := true }
  | .oneOf set => ofSet cost set
  | .assert _ => { bytes := stateBytes, nullable := true, still := true }
  | .seq first second => (ofRegex cost group first).seq (ofRegex cost group second)
  | .alt left right => (ofRegex cost group left).alt cost (ofRegex cost group right)
  | .rep body low high => (ofRegex cost group body).rep low high
  | .capture body =>
    -- A group is entered and left in states of its own.
    let inner := ofRegex cost group body
    { bytes := inner.bytes + group, nullable := inner.nullable, still := inner.still }

end Footprint

/-- Whether an expression can match only where `anchor` holds first. -/
def startsWith (anchor : Assertion) : Regex → Bool
  | .assert assertion => assertion = anchor
  | .seq first _ => startsWith anchor first
  | .capture body => startsWith anchor body
  | _ => false

/-- Whether an expression can match only where `anchor` holds last. -/
def endsWith (anchor : Assertion) : Regex → Bool
  | .assert assertion => assertion = anchor
  | .seq _ second => endsWith anchor second
  | .capture body => endsWith anchor body
  | _ => false

/-- The bytes of the start and the end of an automaton, which may have to skip text first. -/
def frameBytes (anchored : Bool) : Nat :=
  -- Skipping takes a fork and any byte.
  stateBytes + if anchored then stateBytes else Footprint.forkBytes + 2 * stateBytes + rangeBytes

/-- Whether the automata for both directions keep the limit on their size. -/
def fits (regex : Regex) : Bool :=
  -- Only reading forwards remembers groups, and the whole match is one.
  let group := 2 * stateBytes
  (Footprint.ofRegex setForward group regex).bytes + group
      + frameBytes (regex.startsWith .textStart) ≤ sizeLimit
    && (Footprint.ofRegex setBackward 0 regex).bytes
      + frameBytes (regex.endsWith .textEnd) ≤ sizeLimit

end ModuleScope.Regex
