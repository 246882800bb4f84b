import ModuleScope.CommandLine.Basic
import ModuleScope.Config.Decode
import ModuleScope.Elf.Declaration
import ModuleScope.Filter.Draft
import ModuleScope.Loader.Settings
import ModuleScope.Program.Error

/-! What a command line asks for, once all that can be refused has been checked. -/

namespace ModuleScope

namespace Config

/-- The configuration with the settings of a command line. -/
def merge (config : Config) (arguments : CommandArguments) : Config :=
  -- What the command line gives is added to lists, and takes the place of single values.
  let filters := config.filters
  let discovery := config.discovery
  { filters := { filters with
      defaults := filters.defaults && !arguments.noDefaultFilters
      coverage := filters.coverage ++ arguments.filters
      files := filters.files ++ arguments.excludeByFile
      attributes := filters.attributes ++ arguments.excludeByAttribute }
    discovery :=
      { maxConcurrency := arguments.maxConcurrency.or discovery.maxConcurrency
        searchPaths := discovery.searchPaths ++ arguments.searchPaths } }

/-- The configuration that a command line asks for. -/
def ofArguments (tree : FileTree) (arguments : CommandArguments) : Except ConfigError Config := do
  -- Nothing is read unless a file is named.
  match arguments.config with
  | none => .ok (({} : Config).merge arguments)
  | some path => .ok ((← ofFile tree path).merge arguments)

end Config

/-- What the program is to do. -/
structure Plan where
  /-- The filter that decides on modules. -/
  filter : Filter
  /-- Where libraries are looked for. -/
  search : Elf.SearchPaths
  /-- How many modules may be read at the same time. -/
  limit : Nat
  /-- The module that discovery starts from. -/
  seed : Path
  /-- How verdicts are written. -/
  format : LineFormat

namespace Plan

/-- The plan for a command line, where `defaultLimit` modules are read at the same time if it says nothing else. -/
def ofArguments (tree : FileTree) (defaultLimit : Nat) (arguments : CommandArguments) :
    Except ProgramError Plan := do
  -- The configuration is checked before the rules, and nothing else can be refused.
  let config ← (Config.ofArguments tree arguments).mapError .config
  let draft ← (FilterDraft.ofSettings config.filters).mapError .filter
  .ok {
    filter := draft.filter
    search := { configured := config.discovery.searchPaths, system := Loader.systemDirectories tree }
    limit := config.discovery.maxConcurrency.getD defaultLimit
    seed := arguments.seed
    format := arguments.format }

end Plan

end ModuleScope
