/-! Blanks, comments, strings and keys of a document. -/

namespace ModuleScope.Toml

/-- Blanks do not end a line. -/
def isBlank (c : Char) : Bool := c = ' ' || c = '\t'

/-- The text without the blanks at its start. -/
def skipBlanks (text : List Char) : List Char := text.dropWhile isBlank

/-- Characters that may stand in a comment, and in texts but for their own quotes and backslashes. -/
def isPlain (c : Char) : Bool := c = '\t' || (0x20 ≤ c.toNat && c.toNat ≠ 0x7F)

/-- The text after the end of a line. -/
def endLine? : List Char → Option (List Char)
  | '\n' :: rest => some rest
  | '\r' :: '\n' :: rest => some rest
  | _ => none

/-- Drops blanks, comments and ends of lines. -/
def skipLines (inComment : Bool) : List Char → List Char
  | [] => []
  | '\n' :: rest => skipLines false rest
  | '\r' :: '\n' :: rest => skipLines false rest
  | c :: rest =>
    -- A comment goes on to the end of its line.
    if inComment then if isPlain c then skipLines true rest else c :: rest
    else if isBlank c then skipLines false rest
    else if c = '#' then skipLines true rest
    else c :: rest

/-- The text after the rest of a line on which nothing but a comment may follow. -/
def finishLine? (text : List Char) : Option (List Char) :=
  -- The end of the document ends the line too.
  let rest := match skipBlanks text with
    | '#' :: comment => comment.dropWhile isPlain
    | rest => rest
  if rest.isEmpty then some [] else endLine? rest

/-- The value of a hexadecimal digit. -/
def hexDigit? (c : Char) : Option Nat :=
  -- Both cases are digits.
  if c.isDigit then some (c.toNat - '0'.toNat)
  else if 'a' ≤ c ∧ c ≤ 'f' then some (c.toNat - 'a'.toNat + 10)
  else if 'A' ≤ c ∧ c ≤ 'F' then some (c.toNat - 'A'.toNat + 10)
  else none

/-- The character whose code point is written in hexadecimal digits. -/
def charOf? (digits : List Char) : Option Char := do
  -- Surrogates and numbers past the last code point are no characters.
  let code ← digits.foldlM (fun code c => (hexDigit? c).map (16 * code + ·)) 0
  if code.isValidChar then some (Char.ofNat code) else none

/-- The character that a letter stands for after a backslash. -/
def escaped? (letter : Char) : Option Char :=
  -- The quote and the backslash stand for themselves.
  match letter with
  | 'b' => some '\x08'
  | 't' => some '\t'
  | 'n' => some '\n'
  | 'f' => some '\x0c'
  | 'r' => some '\r'
  | '"' => some '"'
  | '\\' => some '\\'
  | _ => none

/-- A text that was read and what follows it. -/
abbrev TextAndRest := Option (List Char × List Char)

/-- Puts a character before a text that was read. -/
def TextAndRest.cons (c : Char) (read : TextAndRest) : TextAndRest :=
  read.map fun (text, rest) => (c :: text, rest)

/-- Reads a text in double quotes after the first of them. -/
def readQuoted : List Char → TextAndRest
  | [] => none
  | '"' :: rest => some ([], rest)
  | '\\' :: 'u' :: a :: b :: c :: d :: rest => do
    TextAndRest.cons (← charOf? [a, b, c, d]) (readQuoted rest)
  | '\\' :: 'U' :: a :: b :: c :: d :: e :: f :: g :: h :: rest => do
    TextAndRest.cons (← charOf? [a, b, c, d, e, f, g, h]) (readQuoted rest)
  | '\\' :: letter :: rest => do TextAndRest.cons (← escaped? letter) (readQuoted rest)
  | c :: rest =>
    -- A backslash that comes last says nothing.
    if isPlain c && c ≠ '\\' then TextAndRest.cons c (readQuoted rest) else none

/-- The quotes that belong to a text although three of their kind end it, and what follows. -/
def extraQuotes (quote : Char) (text : List Char) : List Char × List Char :=
  -- Up to two quotes may stand right before the three.
  let extra := (text.take 2).takeWhile (· = quote)
  (extra, text.drop extra.length)

/-- Reads a text in three double quotes after the first three; `inGap` says that blanks are left out. -/
def readBlock (inGap : Bool) : List Char → TextAndRest
  | [] => none
  | '"' :: '"' :: '"' :: rest => some (extraQuotes '"' rest)
  | '\n' :: rest => if inGap then readBlock true rest else TextAndRest.cons '\n' (readBlock false rest)
  | '\r' :: '\n' :: rest =>
    if inGap then readBlock true rest else TextAndRest.cons '\n' (readBlock false rest)
  | '\\' :: 'u' :: a :: b :: c :: d :: rest => do
    TextAndRest.cons (← charOf? [a, b, c, d]) (readBlock false rest)
  | '\\' :: 'U' :: a :: b :: c :: d :: e :: f :: g :: h :: rest => do
    TextAndRest.cons (← charOf? [a, b, c, d, e, f, g, h]) (readBlock false rest)
  | '\\' :: letter :: rest =>
    -- At the end of a line a backslash leaves out all blanks and line ends up to the next character.
    if (endLine? (skipBlanks (letter :: rest))).isSome then readBlock true (letter :: rest)
    else do TextAndRest.cons (← escaped? letter) (readBlock false rest)
  | c :: rest =>
    if inGap && isBlank c then readBlock true rest
    else if isPlain c && c ≠ '\\' then TextAndRest.cons c (readBlock false rest)
    else none

/-- Reads a text in single quotes after the first of them. -/
def readLiteral : List Char → TextAndRest
  | [] => none
  | c :: rest =>
    -- There are no escapes.
    if c = '\'' then some ([], rest)
    else if isPlain c then TextAndRest.cons c (readLiteral rest)
    else none

/-- Reads a text in three single quotes after the first three. -/
def readLiteralBlock : List Char → TextAndRest
  | [] => none
  | '\'' :: '\'' :: '\'' :: rest => some (extraQuotes '\'' rest)
  | '\n' :: rest => TextAndRest.cons '\n' (readLiteralBlock rest)
  | '\r' :: '\n' :: rest => TextAndRest.cons '\n' (readLiteralBlock rest)
  | c :: rest =>
    -- A line ends with a line feed, however it is written.
    if isPlain c then TextAndRest.cons c (readLiteralBlock rest) else none

/-- Reads a text in quotes of any kind. -/
def readString : List Char → TextAndRest
  | '"' :: '"' :: '"' :: rest => readBlock false ((endLine? rest).getD rest)
  | '"' :: rest => readQuoted rest
  | '\'' :: '\'' :: '\'' :: rest => readLiteralBlock ((endLine? rest).getD rest)
  | '\'' :: rest => readLiteral rest
  | _ => none

/-- Characters of a key without quotes. -/
def isBare (c : Char) : Bool := c.isAlphanum || c = '_' || c = '-'

/-- Reads one name of a key. -/
def readName (text : List Char) : Option (String × List Char) :=
  -- Names may be quoted, but only on one line.
  match text with
  | '"' :: rest => (readQuoted rest).map fun (name, rest) => (String.ofList name, rest)
  | '\'' :: rest => (readLiteral rest).map fun (name, rest) => (String.ofList name, rest)
  | _ =>
    let name := text.takeWhile isBare
    if name.isEmpty then none else some (String.ofList name, text.dropWhile isBare)

/-- Keys and nested values go less deep than this. -/
def depthLimit : Nat := 80

/-- Reads at most so many names with points between them: the names before the last, and the last. -/
def readKeyFrom : Nat → List Char → Option ((List String × String) × List Char)
  | 0, _ => none
  | names + 1, text => do
    -- Blanks may stand around each name.
    let (name, rest) ← readName (skipBlanks text)
    match skipBlanks rest with
    | '.' :: more =>
      let ((path, last), after) ← readKeyFrom names more
      some ((name :: path, last), after)
    | rest => some (([], name), rest)

/-- Reads a key: names with points between them. -/
def readKey (text : List Char) : Option ((List String × String) × List Char) :=
  readKeyFrom (depthLimit - 1) text

end ModuleScope.Toml
