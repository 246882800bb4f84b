import ModuleScope.Config.Basic
import ModuleScope.Discovery.Run
import ModuleScope.Filter.RuleError

/-! The ways in which the program fails, and how it reports them. -/

namespace ModuleScope

/-- Why the program failed. -/
inductive ProgramError
  /-- The configuration is refused. -/
  | config (error : ConfigError)
  /-- A rule or pattern is refused. -/
  | filter (error : RuleError)
  /-- A module could not be read. -/
  | discovery (seed : Path) (error : ModuleFailure)
  /-- Modules may be missing. -/
  | unfinished (state : RunState)

namespace ProgramError

/-- What is said about the failure: the error and then its causes. -/
def messages : ProgramError → List String
  | config error => error.messages ++ (error.failure?.map IoFailure.message).toList
  | filter error => [error.message]
  | discovery seed error =>
    ("Module discovery from " ++ seed.display ++ " failed") :: error.message :: error.causes
  | unfinished state => ["Module discovery ended in state " ++ state.display]

/-- A text with all its lines but the first one indented. -/
def hang (indent text : String) : String := ("\n" ++ indent).intercalate (text.splitOn "\n")

/-- A cause with its number. -/
def numbered (number : Nat) (cause : String) : String :=
  -- Numbers are aligned at their last digit.
  let digits := toString number
  "".pushn ' ' (5 - digits.length) ++ digits ++ ": " ++ hang "       " cause

/-- The causes as they are listed; a single one has no number. -/
def listed : List String → List String
  | [cause] => ["    " ++ hang "    " cause]
  | causes => causes.mapIdx numbered

/-- The report of the failure. -/
def report (error : ProgramError) : String :=
  -- The causes follow after an empty line.
  match error.messages with
  | [] => ""
  | message :: causes =>
    let head := "Error: " ++ message ++ "\n"
    if causes.isEmpty then head
    else head ++ "\nCaused by:\n" ++ String.join ((listed causes).map (· ++ "\n"))

end ProgramError

end ModuleScope
