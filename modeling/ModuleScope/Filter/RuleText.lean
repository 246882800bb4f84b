import ModuleScope.Filter.Rule
import ModuleScope.Unicode.Property

/-! The text of a coverage rule and its parts. -/

namespace ModuleScope

/-- The parts of the text of a coverage rule. -/
structure RuleText where
  /-- The polarity that the first character stands for. -/
  polarity : Polarity
  /-- The text for assemblies. -/
  assembly : List Char
  /-- The text for classes. -/
  className : List Char
deriving DecidableEq, Repr

namespace RuleText

/-- The shapes that a rule may be written in. -/
inductive Shape
  /-- Brackets around the assembly. -/
  | plain
  /-- Parentheses around either part, inside the brackets around the assembly. -/
  | parenthesised
deriving DecidableEq, Repr

namespace Shape

/-- What stands between the polarity and the assembly. -/
def opening : Shape → List Char
  | plain => ['[']
  | parenthesised => ['[', '(']

/-- What stands between the assembly and the class. -/
def middle : Shape → List Char
  | plain => [']']
  | parenthesised => [')', ']', '(']

/-- What stands after the class. -/
def closing : Shape → List Char
  | plain => []
  | parenthesised => [')']

end Shape

/-- The text of a rule in one of the shapes. -/
def write (shape : Shape) (parts : RuleText) : List Char :=
  -- The polarity comes first.
  parts.polarity.symbol ::
    (shape.opening ++ parts.assembly ++ shape.middle ++ parts.className ++ shape.closing)

/-- Neither part is empty, and neither goes on to another line. -/
def WellFormed (parts : RuleText) : Prop :=
  parts.assembly ≠ [] ∧ parts.className ≠ [] ∧ '\n' ∉ parts.assembly ∧ '\n' ∉ parts.className

/-- Splits a text at the last place where `mark` stands with something after it. -/
def splitAtLast? (mark : List Char) : List Char → Option (List Char × List Char)
  | [] => none
  | c :: rest =>
    -- A later place is preferred.
    match splitAtLast? mark rest with
    | some (before, after) => some (c :: before, after)
    | none =>
      if mark.isPrefixOf (c :: rest) && mark.length < (c :: rest).length then
        some ([], (c :: rest).drop mark.length)
      else none

/-- The text without `mark` at its start. -/
def dropStart? (mark text : List Char) : Option (List Char) :=
  -- The text has to start with all of it.
  if mark.isPrefixOf text then some (text.drop mark.length) else none

/-- The text without `mark` at its end. -/
def dropEnd? (mark text : List Char) : Option (List Char) :=
  -- The end of a text is the start of its reverse.
  (dropStart? mark.reverse text.reverse).map List.reverse

/-- The parts of a text in one of the shapes, with the longest assembly that is possible. -/
def ofText? (shape : Shape) (text : List Char) : Option RuleText := do
  -- The first character of the assembly is set aside, so that it cannot be empty.
  let sign :: rest := text | none
  let polarity ← Polarity.ofSymbol? [sign]
  let inner ← dropEnd? shape.closing (← dropStart? shape.opening rest)
  let first :: inner := inner | none
  let (before, className) ← splitAtLast? shape.middle inner
  if (first :: inner).contains '\n' then none
  else some ⟨polarity, first :: before, className⟩

/-- The assembly holds nothing but white space. -/
def isBlank (parts : RuleText) : Bool := parts.assembly.all Unicode.isBlank

/-- The parts of a text in one of the shapes, unless the assembly is blank. -/
def parse (shape : Shape) (text : String) : Except RuleError (Option RuleText) :=
  -- A text of another shape is no error yet.
  match ofText? shape text.toList with
  | none => .ok none
  | some parts => if parts.isBlank then .error (.malformed text) else .ok (some parts)

end RuleText

namespace CoverageRule

/-- The rule with the given expressions. -/
def ofExpressions (polarity : Polarity) (assembly className : List Char) :
    Except RuleError CoverageRule := do
  -- The assembly is checked first.
  let assembly ← (Pattern.regex (String.ofList assembly)).check
  let className ← (Pattern.regex (String.ofList className)).check
  .ok { polarity, assembly, className }

/-- The rule written with wildcards. -/
def ofWildcard (text : String) : Except RuleError CoverageRule := do
  -- Both parts are checked for reserved characters before either is compiled.
  match ← RuleText.parse .plain text with
  | none => .error (.malformed text)
  | some parts =>
    let assembly ← Pattern.wildcard (String.ofList parts.assembly) .assemblyName
    let className ← Pattern.wildcard (String.ofList parts.className) .className
    ofExpressions parts.polarity assembly.expression.toList className.expression.toList

/-- The rule written with regular expressions, in either shape. -/
def ofRegex (text : String) : Except RuleError CoverageRule := do
  -- The shape with parentheses is tried first.
  match ← RuleText.parse .parenthesised text with
  | some parts => ofExpressions parts.polarity parts.assembly parts.className
  | none =>
    match ← RuleText.parse .plain text with
    | none => .error (.malformed text)
    | some parts => ofExpressions parts.polarity parts.assembly parts.className

end CoverageRule

end ModuleScope
