import ModuleScope.Toml.Number

/-! Values, lines and whole documents. -/

namespace ModuleScope.Toml

/-- Reads the elements of an array up to its closing bracket, each with `read`. -/
def readElements (read : List Char → Option (Node × List Char)) :
    Nat → List Char → Option (List Node × List Char)
  | 0, _ => none
  | fuel + 1, text =>
    -- Lines may end between the elements, and a comma may follow the last one.
    match skipLines false text with
    | ']' :: rest => some ([], rest)
    | text => do
      let (element, rest) ← read text
      match skipLines false rest with
      | ',' :: rest =>
        let (elements, after) ← readElements read fuel rest
        some (element :: elements, after)
      | ']' :: rest => some ([element], rest)
      | _ => none

/-- A dotted key, split before its last name, and its value. -/
abbrev Pair := (List String × String) × Node

/-- Reads a key, the equals sign and a value. -/
def readPair (read : List Char → Option (Node × List Char)) (text : List Char) :
    Option (Pair × List Char) := do
  let (key, rest) ← readKey text
  let (value, rest) ← read (skipBlanks (← expect? '=' rest))
  some ((key, value), rest)

/-- Reads the pairs of a table up to its closing brace. -/
def readPairs (read : List Char → Option (Node × List Char)) :
    Nat → List Char → Option (List Pair × List Char)
  | 0, _ => none
  | fuel + 1, text => do
    -- A table stands on one line, and no comma follows its last pair.
    let (pair, rest) ← readPair read text
    match skipBlanks rest with
    | ',' :: rest =>
      let (pairs, after) ← readPairs read fuel rest
      some (pair :: pairs, after)
    | '\x7d' :: rest => some ([pair], rest)
    | _ => none

/-- Reads a value in which arrays and tables are nested at most so deeply. -/
def readValue : Nat → List Char → Option (Node × List Char)
  | depth, text =>
    -- The first character tells what kind of value it is.
    match text with
    | '"' :: _ | '\'' :: _ =>
      (readString text).map fun (value, rest) => (.text (String.ofList value), rest)
    | '[' :: rest =>
      match depth with
      | 0 => none
      | inner + 1 =>
        (readElements (readValue inner) (rest.length + 1) rest).map fun (elements, rest) =>
          (.array elements, rest)
    | '\x7b' :: rest =>
      match depth with
      | 0 => none
      | inner + 1 =>
        match skipBlanks rest with
        | '\x7d' :: rest => some (.table .closed [], rest)
        | rest => do
          let (pairs, rest) ← readPairs (readValue inner) (rest.length + 1) rest
          some (.table .closed (← Entries.ofPairs pairs), rest)
    | 't' :: 'r' :: 'u' :: 'e' :: rest => some (.boolean true, rest)
    | 'f' :: 'a' :: 'l' :: 's' :: 'e' :: rest => some (.boolean false, rest)
    | _ => readNumber text

/-- Reads a line with a header, a line with a key or nothing but a comment. -/
def readLine (text : List Char) : Option (Option Statement × List Char) := do
  -- The text starts with a character that is no blank.
  match text with
  | '#' :: _ => some (none, ← finishLine? text)
  | '[' :: '[' :: rest =>
    let ((path, key), rest) ← readKey rest
    let rest ← finishLine? (← expect? ']' (← expect? ']' rest))
    some (some (.element path key), rest)
  | '[' :: rest =>
    let ((path, key), rest) ← readKey rest
    let rest ← finishLine? (← expect? ']' rest)
    some (some (.table path key), rest)
  | _ =>
    match endLine? text with
    | some rest => some (none, rest)
    | none =>
      let (((path, key), value), rest) ← readPair (readValue (depthLimit - 1)) text
      some (some (.assign path key value), ← finishLine? rest)

/-- Reads the lines of a document. -/
def readLines : Nat → List Char → Option (List Statement)
  | 0, _ => none
  | fuel + 1, text => do
    -- Every line has at least one character or ends the document.
    let text := skipBlanks text
    if text.isEmpty then some []
    else
      let (statement, rest) ← readLine text
      some (statement.toList ++ (← readLines fuel rest))

/-- The table that a document stands for, if it is well written. -/
def parse (text : String) : Option Entries := do
  -- A mark of the byte order at the start does not count.
  let chars := text.toList
  let chars := if chars.head? = some (Char.ofNat 0xFEFF) then chars.drop 1 else chars
  Document.ofStatements (← readLines (chars.length + 1) chars)

end ModuleScope.Toml
