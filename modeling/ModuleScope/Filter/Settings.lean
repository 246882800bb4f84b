import ModuleScope.Filter.RuleError

/-! The texts that a filter is made from. -/

namespace ModuleScope

/-- What a text is added to. -/
inductive RuleTarget
  /-- The coverage rules. -/
  | coverage
  /-- The patterns of excluded attributes. -/
  | attributes
  /-- The patterns of excluded files. -/
  | files
deriving DecidableEq, Repr

/-- How a text is written. -/
inductive RuleForm
  /-- With stars for any characters. -/
  | wildcard
  /-- As regular expressions. -/
  | regex
deriving DecidableEq, Repr

/-- A text to be added to a filter. -/
structure RuleEntry where
  /-- What it is added to. -/
  target : RuleTarget
  /-- How it is written. -/
  form : RuleForm
  /-- The text. -/
  text : String
deriving DecidableEq, Repr

/-- The texts that a configuration gives for a filter. -/
structure FilterSettings where
  /-- Whether the platform's own modules are excluded. -/
  defaults : Bool := true
  /-- Coverage rules with wildcards. -/
  coverage : List String := []
  /-- Coverage rules with regular expressions. -/
  regexCoverage : List String := []
  /-- Excluded attributes, with wildcards. -/
  attributes : List String := []
  /-- Excluded attributes, as regular expressions. -/
  regexAttributes : List String := []
  /-- Excluded files, with wildcards. -/
  files : List String := []
  /-- Excluded files, as regular expressions. -/
  regexFiles : List String := []
deriving DecidableEq, Repr

/-- The rules that take the platform's own modules out of coverage. -/
def defaultRules : List RuleEntry :=
  -- None of these modules is part of a user's program.
  ["-[mscorlib]*", "-[mscorlib.*]*", "-[System]*", "-[System.*]*", "-[Microsoft.VisualBasic]*"].map
    (⟨.coverage, .wildcard, ·⟩)

namespace FilterSettings

/-- The texts in the order in which they are added. -/
def entries (settings : FilterSettings) : List RuleEntry :=
  -- Wildcards come before regular expressions.
  (if settings.defaults then defaultRules else [])
    ++ settings.coverage.map (⟨.coverage, .wildcard, ·⟩)
    ++ settings.regexCoverage.map (⟨.coverage, .regex, ·⟩)
    ++ settings.attributes.map (⟨.attributes, .wildcard, ·⟩)
    ++ settings.regexAttributes.map (⟨.attributes, .regex, ·⟩)
    ++ settings.files.map (⟨.files, .wildcard, ·⟩)
    ++ settings.regexFiles.map (⟨.files, .regex, ·⟩)

end FilterSettings

end ModuleScope
