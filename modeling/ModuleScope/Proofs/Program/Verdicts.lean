import ModuleScope.Program.Run
import ModuleScope.Proofs.Discovery.Completeness
import ModuleScope.Proofs.Discovery.Drain
import ModuleScope.Proofs.Elf.Spelling
import ModuleScope.Proofs.Elf.Termination
import ModuleScope.Proofs.Files.Ending
import ModuleScope.Proofs.Filter.Calls
import ModuleScope.Proofs.Scope.Verdict

/-! What the program prints, and how it exits: a refusal comes before anything else, and otherwise each module that is
found gets its verdict. -/

namespace ModuleScope

/-- The configuration of a command line is refused, or one of the texts that make the filter. -/
inductive Refused (tree : FileTree) (settings : CommandArguments) : Prop
  /-- The configuration is refused. -/
  | config {error : ConfigError} (refused : Config.ofArguments tree settings = .error error)
  /-- A text is refused. -/
  | text {config : Config} {entry : RuleEntry} {error : RuleError}
    (configured : Config.ofArguments tree settings = .ok config) (listed : entry ∈ config.filters.entries)
    (refused : FilterPart.ofEntry entry = .error error)

/-- The plan is the one that a configuration and a command line ask for. -/
structure Plan.IsFor (plan : Plan) (config : Config) (defaultLimit : Nat) (settings : CommandArguments) : Prop where
  /-- The filter holds what the texts of the configuration stand for, in their order. -/
  filter : ∀ target, plan.filter.collection target =
    (config.filters.entries.filterMap RuleEntry.part?).filter (·.target = target)
  /-- Libraries are looked for where the configuration says. -/
  search : plan.search.configured = config.discovery.searchPaths
  /-- So many modules may be read at the same time. -/
  limit : plan.limit = config.discovery.maxConcurrency.getD defaultLimit
  /-- Discovery starts from the module that is named. -/
  seed : plan.seed = settings.seed
  /-- Verdicts are written as they should be. -/
  format : plan.format = settings.format

variable {tree : FileTree} {settings : CommandArguments} {defaultLimit : Nat} {plan : Plan}

/-- What is refused leads to no plan. -/
theorem Refused.no_plan (refused : Refused tree settings) (defaultLimit : Nat) :
    ∃ error, Plan.ofArguments tree defaultLimit settings = .error error := by
  -- The configuration is asked for before its texts are looked at.
  cases refused with
  | @config error refused =>
    refine ⟨.config error, ?_⟩
    simp only [Plan.ofArguments, refused]
    rfl
  | @text config entry error configured listed refused =>
    cases drafted : FilterDraft.ofSettings config.filters with
    | error error =>
      refine ⟨.filter error, ?_⟩
      simp only [Plan.ofArguments, configured, Except.mapError, Bind.bind, Except.bind, drafted]
    | ok draft =>
      -- A draft would have taken the text.
      obtain ⟨part, made⟩ := FilterDraft.addAll_taken_iff.mp ⟨draft, drafted⟩ entry listed
      cases refused.symm.trans made

/-- What is not refused leads to a plan. -/
theorem exists_plan (accepted : ¬Refused tree settings) (defaultLimit : Nat) :
    ∃ config plan, Config.ofArguments tree settings = .ok config ∧
      Plan.ofArguments tree defaultLimit settings = .ok plan ∧ plan.IsFor config defaultLimit settings := by
  cases configured : Config.ofArguments tree settings with
  | error error => exact absurd (.config configured) accepted
  | ok config =>
    -- Not one of the texts is refused.
    have each : ∀ entry ∈ config.filters.entries, ∃ part, FilterPart.ofEntry entry = .ok part := by
      intro entry listed
      cases made : FilterPart.ofEntry entry with
      | error error => exact absurd (.text configured listed made) accepted
      | ok part => exact ⟨part, rfl⟩
    -- So a draft takes all of them, one after the other.
    obtain ⟨draft, taken⟩ := (@FilterDraft.addAll_taken_iff {} _).mpr each
    have drafted : FilterDraft.ofSettings config.filters = .ok draft := taken
    have holds : ∀ target, draft.filter.collection target =
        (config.filters.entries.filterMap RuleEntry.part?).filter (·.target = target) := by
      intro target
      rw [FilterDraft.collection_addAll taken]
      cases target <;> rfl
    simp only [Plan.ofArguments, configured, Except.mapError, Bind.bind, Except.bind, drafted]
    exact ⟨config, _, rfl, rfl, holds, rfl, rfl, rfl, rfl⟩

namespace Plan

/-- The program gets to this point of the run that it asks for modules: those who take part have their turns in any
order, and nobody cancels the run, as nobody else has its token. -/
def Reaches (plan : Plan) (tree : FileTree) (history : History) : Prop :=
  History.GoesOn (.ofTree tree plan.search)
    (.start (Signals.newToken {}).2 (Signals.newToken {}).1 plan.seed plan.limit) history

/-- What is printed and how the program exits at this point of its run. -/
structure Prints (plan : Plan) (history : History) (printout : Printout) : Prop where
  /-- There is a line for each module that has been answered, in their order. -/
  lines : printout.output =
    String.join ((answeredModules history.answers).map fun module => plan.line module ++ "\n")
  /-- The exit is a success just if the run has completed. -/
  success : printout.exitCode = 0 ↔ history.run.state = .completed
  /-- Otherwise it is a failure. -/
  failure : printout.exitCode ≠ 0 → printout.exitCode = 1

variable {history : History}

/-- A point of the run is known to be sound and to lead to its end. -/
theorem Reaches.underway (reaches : plan.Reaches tree history) :
    ∃ paths most, history.Underway (.ofTree tree plan.search) paths most := by
  obtain ⟨moves, _, played⟩ := reaches
  obtain ⟨paths, most, limited⟩ := ModuleSources.limited_of_finite (Elf.finite_reaches tree plan.search plan.seed)
  exact ⟨paths, most, History.underway_of_play? limited played⟩

/-- The verdicts on the modules so far are printed. -/
theorem Reaches.prints (reaches : plan.Reaches tree history) :
    plan.Prints history (.ofOutcome (plan.outcome history.drained)) := by
  obtain ⟨paths, most, underway⟩ := reaches.underway
  have lines : (plan.outcome history.drained).lines = (answeredModules history.answers).map plan.line := rfl
  have failed : (plan.outcome history.drained).error?.isSome = true ↔ history.run.state ≠ .completed := by
    cases found : answeredError? history.answers with
    | some error =>
      -- An error comes only from a run that has faulted.
      have faulted := underway.sound.faulted_of_error found
      simp [outcome, History.drained, found, faulted]
    | none =>
      by_cases completed : history.run.state = .completed <;> simp [outcome, History.drained, found, completed]
  refine ⟨?_, ?_, ?_⟩
  · -- The lines are printed one under the other.
    show String.join ((plan.outcome history.drained).lines.map (· ++ "\n")) = _
    rw [lines, List.map_map]
    rfl
  · -- The exit code tells whether there is an error, and there is none just when the run has completed.
    show (if (plan.outcome history.drained).error?.isSome then 1 else 0) = 0 ↔ _
    rw [← not_iff_not, ← ne_eq (history.run.state), ← failed]
    split <;> simp_all
  · show (if (plan.outcome history.drained).error?.isSome then 1 else 0) ≠ 0 →
      (if (plan.outcome history.drained).error?.isSome then 1 else 0) = 1
    split <;> simp

/-- Each module that is answered has a file name, which decides on it. -/
theorem Reaches.judged (reaches : plan.Reaches tree history) (formed : tree.WellFormed) {module : FoundModule}
    (member : module ∈ answeredModules history.answers) :
    ∃ name assembly, Judged plan.filter module name assembly := by
  obtain ⟨_, _, underway⟩ := reaches.underway
  obtain ⟨described, _⟩ := underway.sound.member member
  -- Only a regular file can be described, and the path of one ends with a name.
  obtain ⟨info, linked, _⟩ := Elf.linkage?_of_describe described
  obtain ⟨name, ends⟩ := formed.endsWith_of_isFile (Elf.isFile_of_linkage? linked)
  exact ⟨name, _, judged_of_endsWith plan.filter ends⟩

/-- The program can go on to the end of its run and until it knows of that. -/
theorem Reaches.settles (reaches : plan.Reaches tree history) :
    ∃ last, plan.Reaches tree last ∧ History.GoesOn (.ofTree tree plan.search) history last ∧
      last.run.state.hasEnded = true ∧ last.run.consumer = .resting := by
  obtain ⟨_, _, underway⟩ := reaches.underway
  obtain ⟨last, goesOn, ended, resting⟩ := underway.settles
  exact ⟨last, reaches.trans goesOn, goesOn, ended, resting⟩

/-- The one schedule that is carried out is one of them, and it is carried out to the end of the run. -/
theorem execute_ends (plan : Plan) (tree : FileTree) :
    ∃ last, plan.Reaches tree last ∧ last.run.state.hasEnded = true ∧ last.run.consumer = .resting ∧
      plan.execute tree = plan.outcome last.drained := by
  -- Over a file tree there is a bound to the work of a run, however its modules need each other.
  have first : plan.Reaches tree _ := History.GoesOn.refl _
  obtain ⟨paths, most, underway⟩ := first.underway
  obtain ⟨last, goesOn, ended, resting, drained⟩ := @History.Underway.drainFrom_ends _ _ paths most [] underway rfl rfl
  exact ⟨last, goesOn, ended, resting, congrArg plan.outcome drained⟩

end Plan

end ModuleScope
