import ModuleScope.Regex.Basic
import ModuleScope.Regex.Reader
import ModuleScope.Unicode.Folding

/-! What a backslash and the text after it stand for. -/

namespace ModuleScope.Regex

open Unicode (CharSet)

/-- What one item of the notation stands for. -/
inductive Atom
  /-- A character; `byte` says that it was written as two hexadecimal digits. -/
  | char (c : Char) (byte : Bool)
  /-- One of a set of characters. -/
  | oneOf (set : CharSet)
  /-- A condition on a position. -/
  | assert (assertion : Assertion)

/-- Applies the case flag and the negation of a class to its characters. -/
def closeClass (flags : Flags) (negated : Bool) (set : CharSet) : Except SyntaxError CharSet :=
  -- Folding comes first, so that a negated class excludes a character in either case.
  if flags.unicode then
    let folded := if flags.ignoreCase then set.foldCase else set
    .ok (if negated then folded.complement else folded)
  else if negated then
    -- Without the whole alphabet the rest of a class includes parts of characters.
    .error .brokenCharacter
  else .ok (if flags.ignoreCase then set.foldAsciiCase else set)

/-- The characters of the class that a letter names, such as `d` for digits. -/
def letterClass (flags : Flags) (letter : Char) : Except SyntaxError CharSet :=
  -- These classes hold each of their characters in both cases already.
  let set := match letter.toLower with
    | 'd' => if flags.unicode then Unicode.digitSet else ⟨[(48, 57)]⟩
    | 's' => if flags.unicode then Unicode.blankSet else ⟨[(9, 13), (32, 32)]⟩
    | _ => if flags.unicode then Unicode.wordSet else ⟨[(48, 57), (65, 90), (95, 95), (97, 122)]⟩
  closeClass { flags with ignoreCase := false } letter.isUpper set

/-- Splits a list at the first place where `mark` starts. -/
def splitAtMark? (mark : List Char) : List Char → Option (List Char × List Char)
  | [] => none
  | c :: rest =>
    -- The part after the mark starts behind all of it.
    if mark.isPrefixOf (c :: rest) then some ([], (c :: rest).drop mark.length)
    else (splitAtMark? mark rest).map fun (before, after) => (c :: before, after)

/-- The characters that a property, or a property and one of its values, stand for. -/
def propertyClass (flags : Flags) (negated : Bool) (name : List Char) : Except SyntaxError CharSet :=
  -- A value follows the first of these marks, all of which mean the same.
  let set? :=
    match (splitAtMark? ['!', '='] name).or ((splitAtMark? [':'] name).or (splitAtMark? ['='] name)) with
    | some (property, value) => Unicode.valued? property value
    | none => Unicode.named? name
  match set? with
  | none => .error .unknownProperty
  | some set => if flags.unicode then closeClass flags negated set else .error .unicodeDisabled

/-- Reads a property after its letter: one character, or a name in braces. -/
def readProperty (flags : Flags) (negated : Bool) (text : List Char) :
    Except SyntaxError (Atom × List Char) :=
  -- A backslash is no name.
  match skipBlank flags.extended text with
  | [] => .error .badEscape
  | '{' :: rest =>
    match readBraced flags.extended false rest with
    | none => .error .badEscape
    | some (name, after) => do .ok (.oneOf (← propertyClass flags negated name), after)
  | '\\' :: _ => .error .unknownProperty
  | c :: rest => do .ok (.oneOf (← propertyClass flags negated [c]), rest)

/-- The word boundary of a name in braces. -/
def edgeNamed? (name : List Char) : Option WordEdge :=
  -- The halves look at one side only.
  match String.ofList name with
  | "start" => some .start
  | "end" => some .finish
  | "start-half" => some .startHalf
  | "end-half" => some .finishHalf
  | _ => none

/-- Reads what follows the letter of a word boundary: a name in braces narrows it down. -/
def readBoundary (flags : Flags) (text : List Char) : Except SyntaxError (Atom × List Char) :=
  -- Braces that do not start with a letter or a hyphen are a repetition of the plain boundary.
  let plain := Atom.assert (.word .boundary !flags.unicode)
  match text with
  | '{' :: rest =>
    match skipBlank flags.extended rest with
    | [] => .error .badBoundary
    | c :: inner =>
      if c.isAlpha || c = '-' then
        match readBraced flags.extended false (c :: inner) with
        | none => .error .badBoundary
        | some (name, after) =>
          match edgeNamed? name with
          | some edge => .ok (.assert (.word edge !flags.unicode), after)
          | none => .error .badBoundary
      else .ok (plain, text)
  | _ => .ok (plain, text)

/-- Characters that stand for something else unless a backslash comes before. -/
def metaChars : List Char :=
  ['\\', '.', '+', '*', '?', '(', ')', '|', '[', ']', '\x7b', '\x7d', '^', '$', '#', '&', '-', '~']

/-- Whether a backslash before the character makes it stand for itself. -/
def isEscapable (c : Char) : Bool :=
  -- Letters, digits and angle brackets have meanings or are kept free for them.
  metaChars.contains c || (c.toNat < 128 && !c.isAlphanum && c ≠ '<' && c ≠ '>')

/-- The control character that a letter stands for after a backslash. -/
def controlChar? (letter : Char) : Option Char :=
  -- The usual short forms.
  match letter with
  | 'a' => some '\x07'
  | 'f' => some '\x0c'
  | 't' => some '\t'
  | 'n' => some '\n'
  | 'r' => some '\r'
  | 'v' => some '\x0b'
  | _ => none

/-- Reads what follows a backslash. -/
def readEscape (flags : Flags) : List Char → Except SyntaxError (Atom × List Char)
  | [] => .error .badEscape
  | c :: rest =>
    -- The character after the backslash decides how much is read.
    if c.isDigit then .error .backReference
    else
      match c with
      | 'x' => do
        let after := skipBlank flags.extended rest
        let (code, rest) ← readCode flags.extended 2 after
        .ok (.char code (after.head? ≠ some '\x7b'), rest)
      | 'u' => do
        let (code, rest) ← readCode flags.extended 4 (skipBlank flags.extended rest)
        .ok (.char code false, rest)
      | 'U' => do
        let (code, rest) ← readCode flags.extended 8 (skipBlank flags.extended rest)
        .ok (.char code false, rest)
      | 'p' => readProperty flags false rest
      | 'P' => readProperty flags true rest
      | 'd' | 's' | 'w' | 'D' | 'S' | 'W' => do .ok (.oneOf (← letterClass flags c), rest)
      | 'A' => .ok (.assert .textStart, rest)
      | 'z' => .ok (.assert .textEnd, rest)
      | 'b' => readBoundary flags rest
      | 'B' => .ok (.assert (.word .inside !flags.unicode), rest)
      | '<' => .ok (.assert (.word .start !flags.unicode), rest)
      | '>' => .ok (.assert (.word .finish !flags.unicode), rest)
      | _ =>
        if isEscapable c then .ok (.char c false, rest)
        else
          match controlChar? c with
          | some control => .ok (.char control false, rest)
          | none => .error .badEscape

/-- A character has to be whole: one written as two digits is a byte where the alphabet is off. -/
def wholeChar (flags : Flags) (c : Char) (byte : Bool) : Except SyntaxError Char :=
  -- A byte above 127 is no character of its own.
  if !flags.unicode && byte && 128 ≤ c.toNat then .error .brokenCharacter else .ok c

end ModuleScope.Regex
