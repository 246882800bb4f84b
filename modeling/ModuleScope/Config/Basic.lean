import ModuleScope.Files.Error
import ModuleScope.Filter.Settings
import ModuleScope.Path.Basic

/-! What a configuration says, and why one is refused. -/

namespace ModuleScope

/-- How modules are looked for. -/
structure DiscoverySettings where
  /-- How many modules may be read at the same time. -/
  maxConcurrency : Option Nat := none
  /-- Further directories in which modules are looked for. -/
  searchPaths : List Path := []
deriving DecidableEq, Repr

/-- A configuration. -/
structure Config where
  /-- What the filter is made from. -/
  filters : FilterSettings := {}
  /-- How modules are looked for. -/
  discovery : DiscoverySettings := {}
deriving DecidableEq, Repr

/-- Why a configuration is refused. -/
inductive ConfigError
  /-- The file cannot be read as text. -/
  | unreadableFile (path : Path) (failure : IoFailure)
  /-- What the file says is refused. -/
  | invalidFile (path : Path) (cause : ConfigError)
  /-- The text is no document, or it holds something else than the known settings. -/
  | malformed
  /-- No module may be read at all. -/
  | zeroConcurrency
deriving DecidableEq, Repr

namespace ConfigError

/-- What is said about the configuration: the error and then its causes. -/
def messages : ConfigError → List String
  | unreadableFile path _ => ["Failed to read config file: " ++ path.display]
  | invalidFile path cause => ("Invalid config file: " ++ path.display) :: cause.messages
  | malformed => ["Failed to parse TOML configuration"]
  | zeroConcurrency => ["Invalid value for discovery.max_concurrency: 0 (must be >= 1)"]

/-- The failure behind the error, if a file could not be read. -/
def failure? : ConfigError → Option IoFailure
  | unreadableFile _ failure => some failure
  | invalidFile _ cause => cause.failure?
  | malformed | zeroConcurrency => none

end ConfigError

end ModuleScope
