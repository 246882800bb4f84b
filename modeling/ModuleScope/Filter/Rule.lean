import ModuleScope.Pattern.Basic

/-! Coverage rules: a polarity, a pattern over assemblies and a pattern over classes. -/

namespace ModuleScope

/-- Whether a rule covers the names that it matches or all others. -/
inductive Polarity
  /-- Covers the names that match. -/
  | inclusive
  /-- Covers the names that do not match. -/
  | exclusive
deriving DecidableEq, Repr

namespace Polarity

/-- The polarity that a symbol stands for. -/
def ofSymbol? (symbol : List Char) : Option Polarity :=
  -- There are two symbols.
  match symbol with
  | ['+'] => some inclusive
  | ['-'] => some exclusive
  | _ => none

/-- The symbol of a polarity. -/
def symbol : Polarity → Char
  | inclusive => '+'
  | exclusive => '-'

/-- What a rule says of a name that it matches or does not match. -/
def verdict (polarity : Polarity) (matched : Bool) : Bool :=
  -- Exclusive rules say the opposite.
  match polarity with
  | inclusive => matched
  | exclusive => !matched

end Polarity

/-- A coverage rule. -/
structure CoverageRule where
  /-- Whether matching names are covered or all others. -/
  polarity : Polarity
  /-- The pattern for assemblies. -/
  assembly : Pattern
  /-- The pattern for classes. -/
  className : Pattern

namespace CoverageRule

/-- Whether the rule agrees that an assembly is covered. -/
def coversAssembly (rule : CoverageRule) (name : String) : Bool :=
  rule.polarity.verdict (rule.assembly.isMatch name)

/-- Whether the rule agrees that a class is covered. -/
def coversClass (rule : CoverageRule) (name : String) : Bool :=
  rule.polarity.verdict (rule.className.isMatch name)

/-- The rule as text. -/
def display (rule : CoverageRule) : String :=
  -- The brackets stand around the assembly.
  String.ofList [rule.polarity.symbol] ++ "[" ++ rule.assembly.expression ++ "]"
    ++ rule.className.expression

end CoverageRule

end ModuleScope
