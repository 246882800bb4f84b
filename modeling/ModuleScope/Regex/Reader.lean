import ModuleScope.Regex.Error
import ModuleScope.Unicode.Property

/-! The small words of the notation: numbers, names, flags and what may stand between them. -/

namespace ModuleScope.Regex

open Unicode (isBlank)

/-- The settings that decide what the notation means. -/
structure Flags where
  /-- Case does not count. -/
  ignoreCase : Bool := false
  /-- Line anchors hold at every line. -/
  multiLine : Bool := false
  /-- The dot matches line ends too. -/
  dotAll : Bool := false
  /-- Repetitions take as little as they can, and the lazy mark makes them take as much. -/
  swapGreed : Bool := false
  /-- Classes range over all characters and not only over those below 128. -/
  unicode : Bool := true
  /-- A carriage return ends a line too. -/
  crlf : Bool := false
  /-- Blanks and comments do not count. -/
  extended : Bool := false
deriving DecidableEq, Repr

namespace Flags

/-- Switches the flag of a letter on or off, if there is one. -/
def set? (flags : Flags) (letter : Char) (on : Bool) : Option Flags :=
  -- The letters are case-sensitive.
  match letter with
  | 'i' => some { flags with ignoreCase := on }
  | 'm' => some { flags with multiLine := on }
  | 's' => some { flags with dotAll := on }
  | 'U' => some { flags with swapGreed := on }
  | 'u' => some { flags with unicode := on }
  | 'R' => some { flags with crlf := on }
  | 'x' => some { flags with extended := on }
  | _ => none

end Flags

/-- Drops blanks and comments; a comment goes on to the end of its line. -/
def skipFrom (inComment : Bool) : List Char → List Char
  | [] => []
  | c :: rest =>
    -- The end of the line ends the comment and is a blank itself.
    if inComment then skipFrom (c ≠ '\n') rest
    else if isBlank c then skipFrom false rest
    else if c = '#' then skipFrom true rest
    else c :: rest

/-- Drops blanks and comments where they do not count. -/
def skipBlank (extended : Bool) (text : List Char) : List Char :=
  -- Without the flag every character counts.
  if extended then skipFrom false text else text

/-- The value of a hexadecimal digit. -/
def hexDigit? (c : Char) : Option Nat :=
  -- Both cases are digits.
  if c.isDigit then some (c.toNat - '0'.toNat)
  else if 'a' ≤ c ∧ c ≤ 'f' then some (c.toNat - 'a'.toNat + 10)
  else if 'A' ≤ c ∧ c ≤ 'F' then some (c.toNat - 'A'.toNat + 10)
  else none

/-- The character of a code point. -/
def charOf? (code : Nat) : Except SyntaxError Char :=
  -- Surrogates and numbers past the last code point are no characters.
  if code.isValidChar then .ok (Char.ofNat code) else .error .badCode

/-- Reads so many hexadecimal digits. -/
def readHex (extended : Bool) : Nat → Nat → List Char → Except SyntaxError (Nat × List Char)
  | 0, value, text => .ok (value, text)
  | _ + 1, _, [] => .error .badCode
  | count + 1, value, c :: rest =>
    -- Blanks may stand between the digits where they do not count.
    match hexDigit? c with
    | some digit => readHex extended count (16 * value + digit) (skipBlank extended rest)
    | none => .error .badCode

/-- The characters before a closing brace, and the text after it. -/
def readBraced (extended inComment : Bool) : List Char → Option (List Char × List Char)
  | [] => none
  | c :: rest =>
    -- Blanks and comments are left out where they do not count.
    if inComment then readBraced extended (c ≠ '\n') rest
    else if extended && isBlank c then readBraced extended false rest
    else if extended && c = '#' then readBraced extended true rest
    else if c = '}' then some ([], rest)
    else (readBraced extended false rest).map fun (inner, after) => (c :: inner, after)

/-- Reads a code point, in braces or in the number of digits that its letter asks for. -/
def readCode (extended : Bool) (digits : Nat) (text : List Char) : Except SyntaxError (Char × List Char) :=
  -- The braces hold any number of digits but none.
  match text with
  | '{' :: rest =>
    match readBraced extended false rest with
    | none => .error .badCode
    | some ([], _) => .error .badCode
    | some (inner, after) => do
      let value ← inner.foldlM (fun value c => do
        match hexDigit? c with
        | some digit => .ok (16 * value + digit)
        | none => .error SyntaxError.badCode) 0
      .ok (← charOf? value, after)
  | _ => do
    let (value, after) ← readHex extended digits 0 text
    .ok (← charOf? value, after)

/-- Reads decimal digits, `value` being what the digits before them say. -/
def readDigits (extended inComment : Bool) (value : Option Nat) : List Char → Option Nat × List Char
  | [] => (value, [])
  | c :: rest =>
    -- Blanks may stand after a digit where they do not count.
    if inComment then readDigits extended (c ≠ '\n') value rest
    else if c.isDigit then readDigits extended false (some (10 * value.getD 0 + (c.toNat - '0'.toNat))) rest
    else if extended && value.isSome && isBlank c then readDigits extended false value rest
    else if extended && value.isSome && c = '#' then readDigits extended true value rest
    else (value, c :: rest)

/-- The greatest bound of a repetition. -/
def maxCount : Nat := 0xFFFFFFFF

/-- Reads a bound of a repetition, with blanks around it. -/
def readCount (extended : Bool) (text : List Char) : Except SyntaxError (Nat × List Char) :=
  -- Blanks around a bound never count.
  match readDigits extended false none (text.dropWhile isBlank) with
  | (some value, rest) =>
    if value ≤ maxCount then .ok (value, rest.dropWhile isBlank) else .error .badCount
  | (none, _) => .error .badCount

/-- Reads the bounds of a repetition after the opening brace. -/
def readBounds (extended : Bool) (text : List Char) :
    Except SyntaxError (Nat × Option Nat × List Char) := do
  -- There is one bound, a lower bound and a comma, or two bounds.
  let (low, rest) ← readCount extended (skipBlank extended text)
  match rest with
  | '}' :: after => .ok (low, some low, after)
  | ',' :: rest =>
    match skipBlank extended rest with
    | '}' :: after => .ok (low, none, after)
    | rest => do
      let (high, rest) ← readCount extended rest
      match rest with
      | '}' :: after => if low ≤ high then .ok (low, some high, after) else .error .badCount
      | _ => .error .badCount
  | _ => .error .badCount

/-- Whether a character may stand in the name of a group, at its start or later. -/
def isNameChar (first : Bool) (c : Char) : Bool :=
  -- Digits, dots and brackets may not come first.
  c = '_' || Unicode.letterSet.contains c ||
    (!first && (c = '.' || c = '[' || c = ']' || Unicode.numberSet.contains c))

/-- Reads the name of a group and the angle bracket after it. -/
def readName (first : Bool) : List Char → Except SyntaxError (List Char × List Char)
  | [] => .error .badName
  | c :: rest =>
    -- A name has at least one character.
    if c = '>' then if first then .error .badName else .ok ([], rest)
    else if isNameChar first c then do
      let (name, after) ← readName false rest
      .ok (c :: name, after)
    else .error .badName

/-- What was read of a list of flags. -/
structure FlagList where
  /-- The settings that follow from the flags read so far. -/
  flags : Flags
  /-- The letters and the sign read so far. -/
  seen : List Char := []

/-- Reads flags up to the colon or parenthesis that ends them; that character is given back too. -/
def readFlags (list : FlagList) : List Char → Except SyntaxError (FlagList × Char × List Char)
  | [] => .error .badFlag
  | c :: rest =>
    -- The letters after the minus sign are switched off, and no letter or sign comes twice.
    if c = ':' || c = ')' then
      if list.seen.head? = some '-' then .error .badFlag else .ok (list, c, rest)
    else if list.seen.contains c then .error .badFlag
    else if c = '-' then readFlags { list with seen := c :: list.seen } rest
    else
      match list.flags.set? c (!list.seen.contains '-') with
      | some flags => readFlags ⟨flags, c :: list.seen⟩ rest
      | none => .error .badFlag

end ModuleScope.Regex
