import ModuleScope.Config.Basic
import ModuleScope.Files.Tree
import ModuleScope.Toml.Parser

/-! Reading a configuration from a document. -/

namespace ModuleScope

open Toml (Node Entries)

namespace Config

/-- The values of named fields: a table of no other names, or an array of the values in order. -/
def fields? (names : List String) : Node → Option (String → Option Node)
  | .table _ entries =>
    -- A name that is not known is refused.
    if entries.all fun entry => names.contains entry.1 then some fun name => entries.lookup name
    else none
  | .array elements => some fun name => elements[names.idxOf name]?
  | _ => none

/-- The texts in an array. -/
def texts? : Node → Option (List String)
  | .array elements => elements.mapM fun
    | .text value => some value
    | _ => none
  | _ => none

/-- The value of a field, or a default if there is none. -/
def fieldOr {α : Type} (field? : Option Node) (default : α) (decode : Node → Option α) : Option α :=
  match field? with
  | none => some default
  | some node => decode node

/-- The names of the filter's fields, in order. -/
def filterFields : List String :=
  ["default_filters", "coverage", "regex_coverage", "exclude_by_attribute",
    "regex_exclude_by_attribute", "exclude_by_file", "regex_exclude_by_file"]

/-- What a section says about the filter. -/
def filters? (node : Node) : Option FilterSettings := do
  -- Every field may be left out.
  let field ← fields? filterFields node
  some {
    defaults := ← fieldOr (field "default_filters") true fun
      | .boolean value => some value
      | _ => none
    coverage := ← fieldOr (field "coverage") [] texts?
    regexCoverage := ← fieldOr (field "regex_coverage") [] texts?
    attributes := ← fieldOr (field "exclude_by_attribute") [] texts?
    regexAttributes := ← fieldOr (field "regex_exclude_by_attribute") [] texts?
    files := ← fieldOr (field "exclude_by_file") [] texts?
    regexFiles := ← fieldOr (field "regex_exclude_by_file") [] texts? }

/-- What a section says about discovery. -/
def discovery? (node : Node) : Option DiscoverySettings := do
  -- The number is not negative; that it is not zero is checked later.
  let field ← fields? ["max_concurrency", "search_paths"] node
  some {
    maxConcurrency := ← fieldOr (field "max_concurrency") none fun
      | .integer (.ofNat value) => some (some value)
      | _ => none
    searchPaths := (← fieldOr (field "search_paths") [] texts?).map Path.ofString }

/-- The configuration in a document. -/
def ofToml (text : String) : Except ConfigError Config :=
  let config? : Option Config := do
    let field ← fields? ["filters", "discovery"] (.table .explicit (← Toml.parse text))
    some {
      filters := ← fieldOr (field "filters") {} filters?
      discovery := ← fieldOr (field "discovery") {} discovery? }
  match config? with
  | none => .error .malformed
  | some config =>
    if config.discovery.maxConcurrency = some 0 then .error .zeroConcurrency else .ok config

/-- The configuration in a file. -/
def ofFile (tree : FileTree) (path : Path) : Except ConfigError Config :=
  -- The file has to hold encoded text.
  match tree.read path with
  | .error error => .error (.unreadableFile path (.system error))
  | .ok content =>
    match String.fromUTF8? content with
    | none => .error (.unreadableFile path (.other "stream did not contain valid UTF-8"))
    | some text =>
      match ofToml text with
      | .ok config => .ok config
      | .error cause => .error (.invalidFile path cause)

end Config

end ModuleScope
