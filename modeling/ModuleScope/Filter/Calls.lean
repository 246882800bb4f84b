import ModuleScope.Filter.Draft

/-! The calls that a draft is made and copied with, by one caller after the other or by several at once. -/

namespace ModuleScope

/-- A program that works on a draft; what it has changed stays when it ends with an error. -/
abbrev DraftM := ExceptT RuleError (StateM FilterDraft)

namespace DraftM

/-- Adds the rule or pattern of a text. -/
def add (entry : RuleEntry) : DraftM Unit := do
  -- The text is checked before the draft is touched.
  let part ← MonadExcept.ofExcept (FilterPart.ofEntry entry)
  modify (·.append part)

/-- Excludes the platform's own modules. -/
def addDefaults : DraftM Unit := defaultRules.forM add

/-- Copies what has been added so far. -/
def build : DraftM Filter := do
  -- Nothing is added in between, as there is only one caller.
  let attributes := (← get).attributes
  let files := (← get).files
  let coverage := (← get).coverage
  return { coverage, attributes, files }

end DraftM

/-- A call that works on a draft. -/
inductive DraftCall
  /-- The rule or pattern of a text is to be added. -/
  | add (entry : RuleEntry)
  /-- The platform's own modules are to be excluded. -/
  | addDefaults
  /-- A filter is to be made of what has been added so far. -/
  | build
deriving DecidableEq, Repr

/-- What a call is answered with. -/
inductive DraftAnswer
  /-- What was to be added has been added. -/
  | added
  /-- The text is no rule or pattern. -/
  | refused (error : RuleError)
  /-- The filter that has been made. -/
  | built (filter : Filter)

/-- The program behind a call. -/
def DraftCall.program : DraftCall → DraftM DraftAnswer
  | add entry => do
    DraftM.add entry
    return .added
  | addDefaults => do
    DraftM.addDefaults
    return .added
  | build => return .built (← DraftM.build)

namespace FilterDraft

/-- The answer to a call, and the draft after it. -/
def answer (draft : FilterDraft) (call : DraftCall) : DraftAnswer × FilterDraft :=
  -- An error is an answer, and the draft stays as the program has left it.
  match (call.program.run draft : Except RuleError DraftAnswer × FilterDraft) with
  | (.ok answer, next) => (answer, next)
  | (.error error, next) => (.refused error, next)

/-- The draft after calls. -/
def after (draft : FilterDraft) (calls : List DraftCall) : FilterDraft :=
  calls.foldl (fun draft call => (draft.answer call).2) draft

/-- The answers to calls, in their order. -/
def answers (draft : FilterDraft) : List DraftCall → List DraftAnswer
  | [] => []
  | call :: rest => (draft.answer call).1 :: (draft.answer call).2.answers rest

end FilterDraft

/-- What is done to a shared draft at one moment. -/
inductive DraftStep
  /-- One of the callers adds the rule or pattern of a text. -/
  | add (caller : Nat) (entry : RuleEntry)
  /-- The next collection is copied into the filter that is being made. -/
  | copy
deriving DecidableEq, Repr

/-- A draft that is shared by several callers, one of whom makes a filter of it. -/
structure SharedDraft where
  /-- What has been added so far. -/
  draft : FilterDraft := {}
  /-- What has been copied so far. -/
  copy : PartialFilter := {}

namespace SharedDraft

/-- The shared draft one moment later. -/
def step (shared : SharedDraft) : DraftStep → SharedDraft
  | .add _ entry => { shared with draft := (shared.draft.answer (.add entry)).2 }
  | .copy => { shared with copy := shared.copy.copyNext shared.draft }

/-- The shared draft after several moments. -/
def run (shared : SharedDraft) (steps : List DraftStep) : SharedDraft := steps.foldl step shared

end SharedDraft

end ModuleScope
