import ModuleScope.Regex.Bracket

/-! Reading a whole regular expression: sequences, branches, groups and repetitions. -/

namespace ModuleScope.Regex

open Unicode (CharSet)

/-- Part of an expression and how deeply its notation is nested. -/
structure Piece where
  /-- What the part matches. -/
  regex : Regex
  /-- How many levels of notation lie below. -/
  depth : Nat := 0
  /-- Whether the part only sets flags, so that there is nothing to repeat. -/
  bare : Bool := false

/-- A group while it is being read, or the expression around all groups. -/
structure Level where
  /-- The settings in force. -/
  flags : Flags
  /-- Whether the group remembers where it matched. -/
  captures : Bool := false
  /-- The parts of the current branch, last part first. -/
  items : List Piece := []
  /-- The branches that are complete, last branch first. -/
  branches : List Piece := []

namespace Level

/-- Adds a part to the current branch. -/
def add (level : Level) (piece : Piece) : Level :=
  -- The last part comes first.
  { level with items := piece :: level.items }

/-- Joins parts that stand side by side or one for another, last part first. -/
def joinPieces (join : Regex → Regex → Regex) : List Piece → Piece
  | [] => ⟨.empty, 0, false⟩
  | [piece] => piece
  | last :: rest =>
    -- Two or more parts are a level of their own.
    let deepest := (rest.map Piece.depth).foldl max last.depth
    ⟨rest.foldl (fun after piece => join piece.regex after) last.regex, deepest + 1, false⟩

/-- The current branch as a whole. -/
def branch (level : Level) : Piece :=
  -- The parts follow one another.
  joinPieces .seq level.items

/-- Everything between the parentheses of the group. -/
def content (level : Level) : Piece :=
  -- The last branch is the current one.
  joinPieces .alt (level.branch :: level.branches)

/-- Ends a branch and starts the next one. -/
def split (level : Level) : Level :=
  -- The settings stay in force.
  { level with items := [], branches := level.branch :: level.branches }

/-- The group as a part of the expression around it. -/
def closed (level : Level) : Piece :=
  -- The parentheses are a level of their own.
  let content := level.content
  ⟨if level.captures then .capture content.regex else content.regex, content.depth + 1, false⟩

/-- Repeats the last part of the current branch. -/
def repeatLast (level : Level) (low : Nat) (high : Option Nat) : Except SyntaxError Level :=
  -- A setting of flags is no part that can be repeated.
  match level.items with
  | [] => .error .missingOperand
  | piece :: rest =>
    if piece.bare then .error .missingOperand
    else .ok { level with items := ⟨.rep piece.regex low high, piece.depth + 1, false⟩ :: rest }

end Level

/-- What stands after an opening parenthesis. -/
inductive Opening
  /-- A group starts. -/
  | group (flags : Flags) (captures : Bool) (name : Option (List Char))
  /-- The settings change, and the parenthesis is closed already. -/
  | settings (flags : Flags)

/-- Whether a text starts with the mark of a group that looks ahead or behind. -/
def looksAround (text : List Char) : Bool :=
  -- Such groups are no part of the notation.
  [['?', '='], ['?', '!'], ['?', '<', '='], ['?', '<', '!']].any (·.isPrefixOf text)

/-- Reads a group's name and says what the group is. -/
def openNamed (flags : Flags) (text : List Char) : Except SyntaxError (Opening × List Char) := do
  -- A named group remembers where it matched.
  let (name, rest) ← readName true text
  .ok (.group flags true (some name), rest)

/-- Reads what follows an opening parenthesis. -/
def readOpening (flags : Flags) (text : List Char) : Except SyntaxError (Opening × List Char) :=
  -- A question mark says that the group is not an ordinary one.
  let text := skipBlank flags.extended text
  if looksAround text then .error .lookAround
  else
    match text with
    | '?' :: 'P' :: '<' :: rest => openNamed flags rest
    | '?' :: '<' :: rest => openNamed flags rest
    | '?' :: rest => do
      let (list, stop, after) ← readFlags { flags } rest
      if stop = ':' then .ok (.group list.flags false none, after)
      else if list.seen.isEmpty then .error .missingOperand
      else .ok (.settings list.flags, after)
    | _ => .ok (.group flags true none, text)

/-- Drops the mark that makes a repetition lazy, which does not change what is matched. -/
def dropLazy (text : List Char) : List Char :=
  -- Only one mark belongs to the repetition.
  match text with
  | '?' :: rest => rest
  | _ => text

/-- What a dot stands for. -/
def dotSet (flags : Flags) : Except SyntaxError CharSet :=
  -- Without the whole alphabet it would match parts of characters.
  if !flags.unicode then .error .brokenCharacter
  else if flags.dotAll then .ok .all
  else if flags.crlf then .ok (CharSet.complement ⟨[(10, 10), (13, 13)]⟩)
  else .ok (CharSet.complement ⟨[(10, 10)]⟩)

/-- What a character stands for that has no other meaning. -/
def charSet (flags : Flags) (c : Char) (byte : Bool) : Except SyntaxError CharSet := do
  -- The flags decide whether its other case is meant too.
  let set := CharSet.single (← wholeChar flags c byte)
  .ok (if !flags.ignoreCase then set else if flags.unicode then set.foldCase else set.foldAsciiCase)

/-- Reads a part that is no group, no branch and no repetition. -/
def readPiece (flags : Flags) (c : Char) (rest : List Char) :
    Except SyntaxError (Piece × List Char) := do
  -- Most characters stand for themselves.
  match c with
  | '[' =>
    let (part, after) ← readClass flags rest
    .ok (⟨.oneOf part.set, part.depth, false⟩, after)
  | '\\' =>
    match ← readEscape flags rest with
    | (.char c byte, after) => .ok (⟨.oneOf (← charSet flags c byte), 0, false⟩, after)
    | (.oneOf set, after) => .ok (⟨.oneOf set, 0, false⟩, after)
    | (.assert assertion, after) => .ok (⟨.assert assertion, 0, false⟩, after)
  | '.' => .ok (⟨.oneOf (← dotSet flags), 0, false⟩, rest)
  | '^' =>
    let start := if flags.multiLine then Assertion.lineStart flags.crlf else .textStart
    .ok (⟨.assert start, 0, false⟩, rest)
  | '$' =>
    let stop := if flags.multiLine then Assertion.lineEnd flags.crlf else .textEnd
    .ok (⟨.assert stop, 0, false⟩, rest)
  | _ => .ok (⟨.oneOf (← charSet flags c false), 0, false⟩, rest)

/-- The greatest depth of nested notation. -/
def maxDepth : Nat := 250

/-- Reads an expression to its end; `outer` are the groups around the current one. -/
def readFrom : Nat → List (List Char) → Level → List Level → List Char → Except SyntaxError Regex
  | 0, _, _, _, _ => .error .unclosedGroup
  | fuel + 1, names, level, outer, text =>
    -- Every round reads at least one character.
    match skipBlank level.flags.extended text with
    | [] =>
      if !outer.isEmpty then .error .unclosedGroup
      else if maxDepth < level.content.depth then .error .tooDeep
      else .ok level.content.regex
    | '(' :: rest => do
      match ← readOpening level.flags rest with
      | (.settings flags, after) =>
        readFrom fuel names { level.add ⟨.empty, 0, true⟩ with flags } outer after
      | (.group flags captures name, after) =>
        if name.any names.contains then .error .duplicateName
        else readFrom fuel (name.toList ++ names) { flags, captures } (level :: outer) after
    | ')' :: rest =>
      match outer with
      | [] => .error .unopenedGroup
      | above :: outer => readFrom fuel names (above.add level.closed) outer rest
    | '|' :: rest => readFrom fuel names level.split outer rest
    | '*' :: rest => do readFrom fuel names (← level.repeatLast 0 none) outer (dropLazy rest)
    | '+' :: rest => do readFrom fuel names (← level.repeatLast 1 none) outer (dropLazy rest)
    | '?' :: rest => do readFrom fuel names (← level.repeatLast 0 (some 1)) outer (dropLazy rest)
    | '\x7b' :: rest => do
      let (low, high, after) ← readBounds level.flags.extended rest
      readFrom fuel names (← level.repeatLast low high) outer
        (dropLazy (skipBlank level.flags.extended after))
    | c :: rest => do
      let (piece, after) ← readPiece level.flags c rest
      readFrom fuel names (level.add piece) outer after

/-- The regular expression that a text is the notation of. -/
def ofText (text : List Char) : Except SyntaxError Regex :=
  -- There are no more rounds than characters and the end.
  readFrom (text.length + 1) [] { flags := {} } [] text

end ModuleScope.Regex
