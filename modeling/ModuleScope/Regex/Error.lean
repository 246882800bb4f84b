/-! The reasons for which a text is no regular expression. -/

namespace ModuleScope.Regex

/-- Why a text is refused as a regular expression. -/
inductive SyntaxError
  /-- A group is opened and not closed. -/
  | unclosedGroup
  /-- A group is closed that was not opened. -/
  | unopenedGroup
  /-- A repetition has nothing before it to repeat. -/
  | missingOperand
  /-- The bounds of a repetition are not well written, too great or in the wrong order. -/
  | badCount
  /-- A bracketed class is not closed. -/
  | unclosedClass
  /-- The ends of a range are in the wrong order or no single characters. -/
  | badRange
  /-- An assertion stands where a class asks for characters. -/
  | notInClass
  /-- A backslash comes last or before a letter without a meaning. -/
  | badEscape
  /-- A group is referred to by its number. -/
  | backReference
  /-- A group looks ahead or behind. -/
  | lookAround
  /-- A code point is not well written or no character. -/
  | badCode
  /-- The name of a group is empty or holds a character that names may not hold. -/
  | badName
  /-- Two groups have one name. -/
  | duplicateName
  /-- A flag is unknown, repeated or missing. -/
  | badFlag
  /-- A word boundary in braces is unknown or not closed. -/
  | badBoundary
  /-- There is no property of this name. -/
  | unknownProperty
  /-- Something that needs the whole alphabet is asked for where it is switched off. -/
  | unicodeDisabled
  /-- A match could split a character. -/
  | brokenCharacter
  /-- Groups, repetitions and classes are nested too deeply. -/
  | tooDeep
  /-- The compiled form would be too large. -/
  | tooLarge
deriving DecidableEq, Repr

end ModuleScope.Regex
