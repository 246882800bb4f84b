import ModuleScope.CommandLine.Parser
import ModuleScope.Discovery.Schedule
import ModuleScope.Program.Plan
import ModuleScope.Scope.Verdict

/-! The whole program: from a command line to what it prints. -/

namespace ModuleScope

/-- What the program has done. -/
structure ProgramOutcome where
  /-- The lines that it printed. -/
  lines : List String := []
  /-- Why it failed, if it did. -/
  error? : Option ProgramError := none
  /-- The paths whose reading was started, last path first. -/
  reads : List Path := []

namespace Plan

/-- The line for a module. -/
def line (plan : Plan) (module : FoundModule) : String :=
  let verdict := Verdict.evaluate plan.filter module
  match plan.format with
  | .text => verdict.textLine
  | .json => verdict.jsonLine

/-- The outcome once the run has ended. -/
def outcome (plan : Plan) (drained : Run.Drained) : ProgramOutcome :=
  -- Modules that were found before an error are printed.
  let state := drained.run.state
  { lines := drained.modules.map plan.line
    error? := match drained.error? with
      | some error => some (.discovery plan.seed error)
      | none => if state = .completed then none else some (.unfinished state)
    reads := drained.run.reads }

/-- Carries the plan out. -/
def execute (plan : Plan) (tree : FileTree) : ProgramOutcome :=
  -- Nobody else has the token, so the run is not cancelled.
  let (token, signals) := Signals.newToken {}
  let (run, signals) := Run.new signals token plan.seed plan.limit
  plan.outcome (run.drain (.ofTree tree plan.search) signals)

end Plan

namespace ProgramOutcome

/-- The outcome for a command line that gives settings. -/
def ofArguments (tree : FileTree) (defaultLimit : Nat) (arguments : CommandArguments) : ProgramOutcome :=
  match Plan.ofArguments tree defaultLimit arguments with
  | .error error => { error? := some error }
  | .ok plan => plan.execute tree

end ProgramOutcome

/-- What the program prints, and the code with which it ends. -/
structure Printout where
  /-- The code. -/
  exitCode : Nat
  /-- What is printed as output. -/
  output : String := ""
  /-- What is printed about errors. -/
  errors : String := ""
deriving DecidableEq, Repr

namespace Printout

/-- What is printed for a version. -/
def version : String := "covscope 0.1.0\n"

/-- What is printed if there are no settings. -/
def ofRefusal (refusal : CommandRefusal) : Printout :=
  { exitCode := refusal.exitCode, output := if refusal = .version then version else "" }

/-- What is printed for an outcome. -/
def ofOutcome (outcome : ProgramOutcome) : Printout :=
  -- Each line is ended.
  { exitCode := if outcome.error?.isSome then 1 else 0
    output := String.join (outcome.lines.map (· ++ "\n"))
    errors := (outcome.error?.map ProgramError.report).getD "" }

/-- What the program prints for a command line. -/
def ofCommandLine (tree : FileTree) (defaultLimit : Nat) (arguments : List String) : Printout :=
  match CommandLine.parse arguments with
  | .error refusal => ofRefusal refusal
  | .ok arguments => ofOutcome (.ofArguments tree defaultLimit arguments)

end Printout

end ModuleScope
