import ModuleScope.Filter.Basic
import ModuleScope.Filter.RuleText
import ModuleScope.Filter.Settings

/-! Drafts of filters, which are made from texts, one after the other. -/

namespace ModuleScope

/-- The rules and patterns that have been added so far. -/
structure FilterDraft where
  /-- The coverage rules. -/
  coverage : List CoverageRule := []
  /-- The patterns of excluded attributes. -/
  attributes : List Pattern := []
  /-- The patterns of excluded files. -/
  files : List Pattern := []

/-- A rule or pattern that is ready to be added. -/
inductive FilterPart
  /-- A coverage rule. -/
  | coverage (rule : CoverageRule)
  /-- A pattern of excluded attributes. -/
  | attribute (pattern : Pattern)
  /-- A pattern of excluded files. -/
  | file (pattern : Pattern)

namespace FilterPart

/-- The compiled pattern of a text. -/
def patternOf (form : RuleForm) (kind : NameKind) (text : String) : Except RuleError Pattern :=
  -- Only wildcard text is checked for reserved characters.
  match form with
  | .wildcard => do (← Pattern.wildcard text kind).check
  | .regex => (Pattern.regex text).check

/-- The rule or pattern of a text. -/
def ofEntry (entry : RuleEntry) : Except RuleError FilterPart := do
  -- The target decides what the text means.
  match entry.target with
  | .coverage =>
    match entry.form with
    | .wildcard => .ok (.coverage (← CoverageRule.ofWildcard entry.text))
    | .regex => .ok (.coverage (← CoverageRule.ofRegex entry.text))
  | .attributes => .ok (.attribute (← patternOf entry.form .attributeName entry.text))
  | .files => .ok (.file (← patternOf entry.form .fileName entry.text))

end FilterPart

/-- A filter that is being copied from a draft, one collection after the other. -/
structure PartialFilter where
  /-- The patterns of excluded attributes, which are copied first. -/
  attributes? : Option (List Pattern) := none
  /-- The patterns of excluded files, which are copied next. -/
  files? : Option (List Pattern) := none
  /-- The coverage rules, which are copied last. -/
  coverage? : Option (List CoverageRule) := none

namespace PartialFilter

/-- Copies the next collection from a draft. -/
def copyNext (copy : PartialFilter) (draft : FilterDraft) : PartialFilter :=
  -- Each collection is copied at one moment, and others may change in between.
  if copy.attributes?.isNone then { copy with attributes? := some draft.attributes }
  else if copy.files?.isNone then { copy with files? := some draft.files }
  else if copy.coverage?.isNone then { copy with coverage? := some draft.coverage }
  else copy

/-- The filter, once all collections have been copied. -/
def filter? (copy : PartialFilter) : Option Filter := do
  -- Nothing is missing.
  some ⟨← copy.coverage?, ← copy.attributes?, ← copy.files?⟩

end PartialFilter

namespace FilterDraft

/-- Adds a rule or pattern after those of its kind. -/
def append (draft : FilterDraft) : FilterPart → FilterDraft
  | .coverage rule => { draft with coverage := draft.coverage ++ [rule] }
  | .attribute pattern => { draft with attributes := draft.attributes ++ [pattern] }
  | .file pattern => { draft with files := draft.files ++ [pattern] }

/-- Adds the rule or pattern of a text. -/
def add (draft : FilterDraft) (entry : RuleEntry) : Except RuleError FilterDraft := do
  -- A text that is refused adds nothing.
  .ok (draft.append (← FilterPart.ofEntry entry))

/-- Adds texts one after the other up to the first that is refused. -/
def addAll (draft : FilterDraft) (entries : List RuleEntry) : Except RuleError FilterDraft :=
  entries.foldlM add draft

/-- Excludes the platform's own modules. -/
def addDefaults (draft : FilterDraft) : Except RuleError FilterDraft :=
  draft.addAll defaultRules

/-- The draft with the texts of a configuration. -/
def ofSettings (settings : FilterSettings) : Except RuleError FilterDraft :=
  addAll {} settings.entries

/-- The filter of what has been added so far. -/
def filter (draft : FilterDraft) : Filter :=
  ⟨draft.coverage, draft.attributes, draft.files⟩

/-- Copying all collections from a draft that stays the same gives its filter. -/
theorem copy_eq_filter (draft : FilterDraft) :
    ((((({} : PartialFilter).copyNext draft).copyNext draft).copyNext draft).filter?)
      = some draft.filter := rfl

end FilterDraft

end ModuleScope
