/-! Sets of characters, kept as ascending ranges of code points. -/

namespace ModuleScope.Unicode

/-- The greatest code point. -/
def maxCode : Nat := 0x10FFFF

/-- The code point after `code`, skipping the surrogates, which are no characters. -/
def nextCode (code : Nat) : Nat :=
  -- The last code point before the surrogates is followed by the first one after them.
  if code = 0xD7FF then 0xE000 else code + 1

/-- The code point before `code`, skipping the surrogates. -/
def prevCode (code : Nat) : Nat :=
  -- The first code point after the surrogates is preceded by the last one before them.
  if code = 0xE000 then 0xD7FF else code - 1

/-- A set of characters: inclusive ranges of code points, ascending, no two of which touch. -/
structure CharSet where
  /-- The first and the last code point of each range. -/
  ranges : List (Nat × Nat)
deriving DecidableEq, Repr, Inhabited

namespace CharSet

/-- The set without characters. -/
def empty : CharSet := ⟨[]⟩

/-- The set of all characters. -/
def all : CharSet := ⟨[(0, maxCode)]⟩

/-- The set of one code point. -/
def ofCode (code : Nat) : CharSet := ⟨[(code, code)]⟩

/-- The set of one character. -/
def single (c : Char) : CharSet := ofCode c.toNat

/-- Whether a code point lies in one of the ranges. -/
def containsCode (set : CharSet) (code : Nat) : Bool :=
  -- The ranges are few, so each is tried.
  set.ranges.any fun range => range.1 ≤ code && code ≤ range.2

/-- Whether a character belongs to the set. -/
def contains (set : CharSet) (c : Char) : Bool :=
  -- A character is its code point.
  set.containsCode c.toNat

/-- Joins ascending ranges that overlap or touch, `current` being the range that may still grow. -/
def joinFrom (current : Nat × Nat) : List (Nat × Nat) → List (Nat × Nat)
  | [] => [current]
  | range :: rest =>
    -- A range that starts past the next code point leaves a gap.
    if nextCode current.2 < range.1 then
      current :: joinFrom range rest
    else
      joinFrom (current.1, max current.2 range.2) rest

/-- The set of the characters in any of the ranges, which may overlap and come in any order. -/
def ofRanges (ranges : List (Nat × Nat)) : CharSet :=
  -- Sorting by the first code point brings ranges that touch side by side.
  match ranges.mergeSort fun a b => a.1 ≤ b.1 with
  | [] => empty
  | first :: rest => ⟨joinFrom first rest⟩

/-- The characters in either set. -/
def union (a b : CharSet) : CharSet :=
  -- Joining restores the order of the ranges.
  ofRanges (a.ranges ++ b.ranges)

/-- The gaps between ascending ranges, from the code point `start` on. -/
def gapsFrom (start : Nat) : List (Nat × Nat) → List (Nat × Nat)
  | [] => if start ≤ maxCode then [(start, maxCode)] else []
  | range :: rest =>
    -- A range at the start leaves no gap before it.
    if start < range.1 then
      (start, prevCode range.1) :: gapsFrom (nextCode range.2) rest
    else
      gapsFrom (nextCode range.2) rest

/-- The characters outside the set. -/
def complement (set : CharSet) : CharSet :=
  -- What the ranges leave out are the gaps between them.
  ⟨gapsFrom 0 set.ranges⟩

/-- The characters in both sets. -/
def inter (a b : CharSet) : CharSet :=
  -- A character is in both sets if it is outside neither.
  (a.complement.union b.complement).complement

/-- The characters of the first set that are not in the second. -/
def diff (a b : CharSet) : CharSet :=
  -- Being outside the second set is being in its complement.
  a.inter b.complement

/-- The characters in exactly one of the sets. -/
def symmDiff (a b : CharSet) : CharSet :=
  -- Either side may be the one that has the character.
  (a.diff b).union (b.diff a)

/-- The only code point of a set that has just one. -/
def onlyCode? (set : CharSet) : Option Nat :=
  -- One range of one code point.
  match set.ranges with
  | [(first, last)] => if first = last then some first else none
  | _ => none

/-- Whether every character is below 128. -/
def isAscii (set : CharSet) : Bool :=
  -- The last code point of each range decides.
  set.ranges.all fun range => range.2 < 128

/-- Reads decimal numbers separated by single blanks, `current` being the digits read so far. -/
def readNumbers (current : Nat) : List Char → List Nat
  | [] => [current]
  | c :: rest =>
    -- A blank ends a number, and every other character is a digit.
    if c = ' ' then current :: readNumbers 0 rest
    else readNumbers (10 * current + (c.toNat - '0'.toNat)) rest

/-- Ranges from alternating counts of code points left out and taken, after the code point `start`. -/
def rangesFrom (start : Nat) : List Nat → List (Nat × Nat)
  | skip :: take :: rest =>
    -- A range takes at least one code point.
    (start + skip, start + skip + take - 1) :: rangesFrom (start + skip + take) rest
  | _ => []

/-- Reads a table row: counts of code points left out and taken in turn, from zero on. -/
def ofSpans (text : String) : CharSet :=
  -- The rows are ascending and leave gaps, so nothing is left to join.
  ⟨rangesFrom 0 (readNumbers 0 text.toList)⟩

end CharSet

end ModuleScope.Unicode
