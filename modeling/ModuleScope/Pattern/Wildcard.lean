import ModuleScope.Pattern.NameKind

/-! Wildcard text, in which a star stands for any characters of one line. -/

namespace ModuleScope.Wildcard

/-- What one character of wildcard text becomes in a regular expression. -/
def charExpression (c : Char) : List Char :=
  -- Only backslashes and dots are protected from their meaning in expressions.
  if c = '\\' then ['\\', '\\']
  else if c = '.' then ['\\', '.']
  else if c = '*' then ['.', '*']
  else [c]

/-- The regular expression that wildcard text becomes. -/
def expression (text : List Char) : List Char :=
  -- Each character is replaced on its own.
  text.flatMap charExpression

/-- Whether the text holds a character that is reserved in its kind of names. -/
def hasReserved (kind : NameKind) (text : List Char) : Bool :=
  -- One such character is enough.
  text.any kind.reserved.contains

/-- The text with its stars read as any characters of one line matches a name as a whole. -/
inductive Matches : List Char → List Char → Prop
  /-- The empty text matches the empty name. -/
  | nil : Matches [] []
  /-- Every character but the star matches itself. -/
  | char {c : Char} {text name : List Char} (plain : c ≠ '*') (rest : Matches text name) :
      Matches (c :: text) (c :: name)
  /-- A star may match nothing. -/
  | skip {text name : List Char} (rest : Matches text name) : Matches ('*' :: text) name
  /-- A star may match one more character, but no line feed. -/
  | take {c : Char} {text name : List Char} (inLine : c ≠ '\n') (rest : Matches ('*' :: text) name) :
      Matches ('*' :: text) (c :: name)

end ModuleScope.Wildcard
