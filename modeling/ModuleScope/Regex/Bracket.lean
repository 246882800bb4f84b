import ModuleScope.Regex.Escape

/-! Bracketed classes: single characters, ranges, named classes, nested classes and set operations. -/

namespace ModuleScope.Regex

open Unicode (CharSet)

/-- Operations that join the parts of a class. -/
inductive SetOp
  /-- The characters in both parts. -/
  | inter
  /-- The characters of the first part that are not in the second. -/
  | diff
  /-- The characters in exactly one part. -/
  | symmDiff
deriving DecidableEq, Repr

namespace SetOp

/-- The characters that an operation leaves of two sets. -/
def apply (op : SetOp) (left right : CharSet) : CharSet :=
  -- Each operation has a set operation of its own.
  match op with
  | inter => left.inter right
  | diff => left.diff right
  | symmDiff => left.symmDiff right

end SetOp

/-- The characters of part of a class and how deeply its notation is nested. -/
structure ClassPart where
  /-- The characters. -/
  set : CharSet := .empty
  /-- How many levels of notation lie below. -/
  depth : Nat := 0

/-- One level of brackets while it is being read. -/
structure ClassLevel where
  /-- Whether the class stands for all other characters. -/
  negated : Bool
  /-- The items since the opening bracket or the last operation. -/
  items : ClassPart := {}
  /-- How many items these are. -/
  count : Nat := 0
  /-- The part before the last operation, if there was one. -/
  pending : Option (ClassPart × SetOp) := none

namespace ClassLevel

/-- Adds an item. -/
def add (level : ClassLevel) (item : ClassPart) : ClassLevel :=
  -- The deepest item counts.
  { level with
    items := ⟨level.items.set.union item.set, max level.items.depth item.depth⟩
    count := level.count + 1 }

/-- The part that has been read, with the last operation applied. -/
def part (flags : Flags) (level : ClassLevel) : ClassPart :=
  -- Two or more items are a level of their own, and so is an operation.
  let right : ClassPart :=
    if 2 ≤ level.count then { level.items with depth := level.items.depth + 1 } else level.items
  match level.pending with
  | none => right
  | some (left, op) =>
    let fold := fun set : CharSet =>
      if !flags.ignoreCase then set
      else if flags.unicode then set.foldCase else set.foldAsciiCase
    ⟨op.apply (fold left.set) (fold right.set), max left.depth right.depth + 1⟩

/-- Ends a part at an operation. -/
def operate (flags : Flags) (op : SetOp) (level : ClassLevel) : ClassLevel :=
  -- Operations are applied from left to right.
  { negated := level.negated, pending := some (level.part flags, op) }

/-- Ends the class at its closing bracket. -/
def close (flags : Flags) (level : ClassLevel) : Except SyntaxError ClassPart := do
  -- The brackets are a level of their own.
  let inner := level.part flags
  .ok ⟨← closeClass flags level.negated inner.set, inner.depth + 1⟩

end ClassLevel

/-- The characters of a class named in brackets and colons. -/
def asciiClass? (name : String) : Option CharSet :=
  -- All of them lie below 128.
  match name with
  | "alnum" => some ⟨[(48, 57), (65, 90), (97, 122)]⟩
  | "alpha" => some ⟨[(65, 90), (97, 122)]⟩
  | "ascii" => some ⟨[(0, 127)]⟩
  | "blank" => some ⟨[(9, 9), (32, 32)]⟩
  | "cntrl" => some ⟨[(0, 31), (127, 127)]⟩
  | "digit" => some ⟨[(48, 57)]⟩
  | "graph" => some ⟨[(33, 126)]⟩
  | "lower" => some ⟨[(97, 122)]⟩
  | "print" => some ⟨[(32, 126)]⟩
  | "punct" => some ⟨[(33, 47), (58, 64), (91, 96), (123, 126)]⟩
  | "space" => some ⟨[(9, 13), (32, 32)]⟩
  | "upper" => some ⟨[(65, 90)]⟩
  | "word" => some ⟨[(48, 57), (65, 90), (95, 95), (97, 122)]⟩
  | "xdigit" => some ⟨[(48, 57), (65, 70), (97, 102)]⟩
  | _ => none

/-- Reads a named class after an opening bracket: its characters, whether it is negated, and the rest. -/
def readAsciiClass? (text : List Char) : Option (CharSet × Bool × List Char) :=
  -- Whatever is not written in just this way is an ordinary nested class.
  match text with
  | ':' :: rest =>
    let negated := rest.head? = some '^'
    let rest := if negated then rest.drop 1 else rest
    match rest.dropWhile (· ≠ ':') with
    | ':' :: ']' :: after =>
      (asciiClass? (String.ofList (rest.takeWhile (· ≠ ':')))).map fun set => (set, negated, after)
    | _ => none
  | _ => none

/-- Counts the hyphens at the start of a class, which stand for themselves. -/
def readHyphens (extended inComment : Bool) (count : Nat) : List Char → Nat × List Char
  | [] => (count, [])
  | c :: rest =>
    -- Blanks and comments may stand between them where they do not count.
    if inComment then readHyphens extended (c ≠ '\n') count rest
    else if c = '-' then readHyphens extended false (count + 1) rest
    else if extended && Unicode.isBlank c then readHyphens extended false count rest
    else if extended && c = '#' then readHyphens extended true count rest
    else (count, c :: rest)

/-- Reads the start of a class after its opening bracket. -/
def openClass (flags : Flags) (text : List Char) : ClassLevel × List Char :=
  -- A closing bracket in the first place stands for itself, so no class is empty.
  let text := skipBlank flags.extended text
  let negated := text.head? = some '^'
  let text := if negated then skipBlank flags.extended (text.drop 1) else text
  let (hyphens, text) := readHyphens flags.extended false 0 text
  let level : ClassLevel :=
    { negated, items := ⟨if hyphens = 0 then .empty else .single '-', 0⟩, count := hyphens }
  match text with
  | ']' :: rest => if hyphens = 0 then (level.add ⟨.single ']', 0⟩, rest) else (level, text)
  | _ => (level, text)

/-- Reads one item of a class that is no bracket and no operation. -/
def readItem (flags : Flags) : List Char → Except SyntaxError (Atom × List Char)
  | [] => .error .unclosedClass
  | '\\' :: rest => readEscape flags rest
  | c :: rest => .ok (.char c false, rest)

/-- The code point of a character in a class. -/
def classCode (flags : Flags) (c : Char) (byte : Bool) : Except SyntaxError Nat := do
  -- Where the alphabet is off a class holds characters below 128 only.
  let c ← wholeChar flags c byte
  if !flags.unicode && 128 ≤ c.toNat then .error .unicodeDisabled else .ok c.toNat

/-- The first character after a hyphen that counts, one comment sign being left out too. -/
def afterHyphen? (extended : Bool) (text : List Char) : Option Char :=
  -- Looking ahead passes blanks and a comment sign, but not the comment itself.
  if extended then
    match text.dropWhile Unicode.isBlank with
    | '#' :: rest => (rest.dropWhile Unicode.isBlank).head?
    | rest => rest.head?
  else text.head?

/-- Reads a range or a single item. -/
def readRange (flags : Flags) (text : List Char) : Except SyntaxError (ClassPart × List Char) := do
  -- A hyphen before a closing bracket or another hyphen makes no range.
  let (first, rest) ← readItem flags text
  let rest := skipBlank flags.extended rest
  let isRange := match rest with
    | '-' :: more =>
      let next := afterHyphen? flags.extended more
      next ≠ some ']' && next ≠ some '-'
    | _ => false
  if rest.isEmpty then .error .unclosedClass
  else if isRange then
    let (last, rest) ← readItem flags (skipBlank flags.extended (rest.drop 1))
    match first, last with
    | .char low lowByte, .char high highByte =>
      if high.toNat < low.toNat then .error .badRange
      else
        let low ← classCode flags low lowByte
        let high ← classCode flags high highByte
        .ok (⟨⟨[(low, high)]⟩, 0⟩, rest)
    | _, _ => .error .badRange
  else
    match first with
    | .char c byte => do .ok (⟨.ofCode (← classCode flags c byte), 0⟩, rest)
    | .oneOf set => .ok (⟨set, 0⟩, rest)
    | .assert _ => .error .notInClass

/-- Reads a class to its closing bracket; `outer` are the levels around the current one. -/
def readClassFrom (flags : Flags) :
    Nat → ClassLevel → List ClassLevel → List Char → Except SyntaxError (ClassPart × List Char)
  | 0, _, _, _ => .error .unclosedClass
  | fuel + 1, level, outer, text =>
    -- Every round reads at least one character.
    match skipBlank flags.extended text with
    | [] => .error .unclosedClass
    | '[' :: rest =>
      match readAsciiClass? rest with
      | some (set, negated, after) => do
        let set ← closeClass flags negated set
        readClassFrom flags fuel (level.add ⟨set, 0⟩) outer after
      | none =>
        let (inner, after) := openClass flags rest
        readClassFrom flags fuel inner (level :: outer) after
    | ']' :: rest => do
      let part ← level.close flags
      match outer with
      | [] => .ok (part, rest)
      | above :: outer => readClassFrom flags fuel (above.add part) outer rest
    | '&' :: '&' :: rest => readClassFrom flags fuel (level.operate flags .inter) outer rest
    | '-' :: '-' :: rest => readClassFrom flags fuel (level.operate flags .diff) outer rest
    | '~' :: '~' :: rest => readClassFrom flags fuel (level.operate flags .symmDiff) outer rest
    | text => do
      let (item, after) ← readRange flags text
      readClassFrom flags fuel (level.add item) outer after

/-- Reads a class after its opening bracket. -/
def readClass (flags : Flags) (text : List Char) : Except SyntaxError (ClassPart × List Char) :=
  -- The text has no more rounds than characters.
  let (level, after) := openClass flags text
  readClassFrom flags (text.length + 1) level [] after

end ModuleScope.Regex
