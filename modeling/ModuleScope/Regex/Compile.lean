import ModuleScope.Regex.Footprint
import ModuleScope.Regex.Parser
import ModuleScope.Regex.Search

/-! From the text of a regular expression to a regex that is small enough to be used. -/

namespace ModuleScope.Regex

/-- The regex that a text is the notation of, unless it would take too much room. -/
def compile (text : List Char) : Except SyntaxError Regex := do
  -- The notation is checked first.
  let regex ← ofText text
  if regex.fits then .ok regex else .error .tooLarge

end ModuleScope.Regex
