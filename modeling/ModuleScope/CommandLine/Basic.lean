import ModuleScope.Path.Basic

/-! The settings that a command line gives, and the ways in which one is refused. -/

namespace ModuleScope

/-- How verdicts are written. -/
inductive LineFormat
  /-- A line of text for each module. -/
  | text
  /-- A JSON object for each module. -/
  | json
deriving DecidableEq, Repr

/-- What can be set on a command line. -/
inductive CommandOption
  /-- The configuration file. -/
  | config
  /-- A coverage rule. -/
  | filter
  /-- A pattern of excluded files. -/
  | excludeByFile
  /-- A pattern of excluded attributes. -/
  | excludeByAttribute
  /-- The platform's own modules are not excluded. -/
  | noDefaultFilters
  /-- The number of modules that are read at the same time. -/
  | maxConcurrency
  /-- A directory in which modules are looked for. -/
  | searchPath
  /-- How verdicts are written. -/
  | format
  /-- Diagnostic output. -/
  | debug
  /-- The help screen. -/
  | help
  /-- The version. -/
  | version
  /-- The module that discovery starts from, which is the only argument without a name. -/
  | seed
deriving DecidableEq, Repr

namespace CommandOption

/-- The option of a long name. -/
def ofLong? (name : String) : Option CommandOption :=
  -- Names are not abbreviated.
  match name with
  | "config" => some config
  | "filter" => some filter
  | "exclude-by-file" => some excludeByFile
  | "exclude-by-attribute" => some excludeByAttribute
  | "no-default-filters" => some noDefaultFilters
  | "max-concurrency" => some maxConcurrency
  | "search-path" => some searchPath
  | "format" => some format
  | "debug" => some debug
  | "help" => some help
  | "version" => some version
  | _ => none

/-- The option of a letter. -/
def ofShort? (letter : Char) : Option CommandOption :=
  -- Not every option has a letter.
  match letter with
  | 'c' => some config
  | 'f' => some filter
  | 'j' => some maxConcurrency
  | 'L' => some searchPath
  | 'h' => some help
  | 'V' => some version
  | _ => none

/-- Whether the option has a value. -/
def takesValue (option : CommandOption) : Bool :=
  -- The others are switches.
  match option with
  | noDefaultFilters | debug | help | version => false
  | _ => true

/-- Whether the value may start with a hyphen although it stands apart. -/
def allowsHyphen (option : CommandOption) : Bool := option = filter

end CommandOption

/-- The settings of a command line. -/
structure CommandArguments where
  /-- The configuration file. -/
  config : Option Path := none
  /-- Coverage rules. -/
  filters : List String := []
  /-- Patterns of excluded files. -/
  excludeByFile : List String := []
  /-- Patterns of excluded attributes. -/
  excludeByAttribute : List String := []
  /-- Whether the platform's own modules are not excluded. -/
  noDefaultFilters : Bool := false
  /-- The number of modules that are read at the same time. -/
  maxConcurrency : Option Nat := none
  /-- Directories in which modules are looked for. -/
  searchPaths : List Path := []
  /-- How verdicts are written. -/
  format : LineFormat := .text
  /-- Whether there is diagnostic output. -/
  debug : Bool := false
  /-- The module that discovery starts from. -/
  seed : Path
deriving DecidableEq, Repr

/-- Why there are no settings. -/
inductive CommandRefusal
  /-- There is no such option, or there is an argument too many. -/
  | unknownArgument
  /-- A value is missing, empty or none of the possible ones. -/
  | invalidValue
  /-- A value is no number within the bounds. -/
  | valueValidation
  /-- There is no module to start from. -/
  | missingSeed
  /-- An option that can be given once is given again. -/
  | repeated
  /-- A switch has a value. -/
  | unwantedValue
  /-- The help screen is asked for. -/
  | help
  /-- The version is asked for. -/
  | version
deriving DecidableEq, Repr

namespace CommandRefusal

/-- The exit code that tells of the refusal. -/
def exitCode (refusal : CommandRefusal) : Nat :=
  -- Asking for help is no mistake.
  match refusal with
  | help | version => 0
  | _ => 2

end CommandRefusal

end ModuleScope
