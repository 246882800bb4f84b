import ModuleScope.Pattern.NameKind
import ModuleScope.Regex.Error

/-! The reasons for which the text of a rule or pattern is refused. -/

namespace ModuleScope

/-- Why the text of a rule or pattern is refused. -/
inductive RuleError
  /-- The text has not the shape of a rule, or its assembly is blank. -/
  | malformed (text : String)
  /-- Wildcard text holds a reserved character. -/
  | reserved (text : String) (kind : NameKind)
  /-- The expression is no regular expression. -/
  | invalidPattern (expression : String) (cause : Regex.SyntaxError)
deriving DecidableEq, Repr

namespace RuleError

/-- What is said about any text that cannot be processed. -/
def advice : String := ". Please check your syntax against the usage guide and try again."

/-- What is said about the text. -/
def message : RuleError → String
  | malformed text => "Unable to process the filter '" ++ text ++ "'" ++ advice
  | reserved text kind =>
    "Unable to process the filter '" ++ text ++ "' for the " ++ kind.display ++ advice
  | invalidPattern expression _ => "Invalid filter pattern '" ++ expression ++ "'"

end RuleError

end ModuleScope
