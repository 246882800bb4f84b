import ModuleScope.CommandLine.Basic

/-! Reading a command line argument by argument. -/

namespace ModuleScope.CommandLine

/-- A command line that is being read. -/
structure State where
  /-- The settings that are complete; the seed does not count before it was given. -/
  arguments : CommandArguments := { seed := ⟨[]⟩ }
  /-- The options that were given. -/
  given : List CommandOption := []
  /-- The option whose value is awaited or not yet looked at. -/
  pending : Option (CommandOption × Option String) := none
  /-- Whether an argument without a name has been read. -/
  hasSeed : Bool := false
  /-- Whether no more options may come. -/
  ended : Bool := false

/-- The greatest number of modules that may be read at the same time. -/
def maxJobs : Nat := 0xFFFFFFFF

/-- A positive number in decimal digits, perhaps after a plus. -/
def jobs? (text : String) : Option Nat :=
  let digits := match text.toList with
    | '+' :: rest => rest
    | all => all
  let value := digits.foldl (fun value c => 10 * value + (c.toNat - '0'.toNat)) 0
  if !digits.isEmpty && digits.all Char.isDigit && 1 ≤ value && value ≤ maxJobs then some value
  else none

/-- A path, which may not be empty. -/
def pathOf (text : String) : Except CommandRefusal Path :=
  if text.isEmpty then .error .invalidValue else .ok (Path.ofString text)

/-- Takes account of the value of an option. -/
def setValue (arguments : CommandArguments) (option : CommandOption) (value : String) :
    Except CommandRefusal CommandArguments := do
  -- Lists grow at their end.
  match option with
  | .config => .ok { arguments with config := some (← pathOf value) }
  | .filter => .ok { arguments with filters := arguments.filters ++ [value] }
  | .excludeByFile => .ok { arguments with excludeByFile := arguments.excludeByFile ++ [value] }
  | .excludeByAttribute =>
    .ok { arguments with excludeByAttribute := arguments.excludeByAttribute ++ [value] }
  | .maxConcurrency =>
    match jobs? value with
    | some count => .ok { arguments with maxConcurrency := some count }
    | none => .error .valueValidation
  | .searchPath => .ok { arguments with searchPaths := arguments.searchPaths ++ [← pathOf value] }
  | .format =>
    match value with
    | "text" => .ok { arguments with format := .text }
    | "json" => .ok { arguments with format := .json }
    | _ => .error .invalidValue
  | .seed => .ok { arguments with seed := ← pathOf value }
  | .noDefaultFilters | .debug | .help | .version => .ok arguments

/-- Whether an option may be given more than once. -/
def isRepeatable (option : CommandOption) : Bool :=
  -- These options make lists.
  match option with
  | .filter | .excludeByFile | .excludeByAttribute | .searchPath => true
  | _ => false

/-- Takes account of an option with its value, if it has one. -/
def apply (state : State) (option : CommandOption) (value? : Option String) :
    Except CommandRefusal State := do
  -- A repetition is noticed before the value is looked at.
  if option.takesValue && value?.isNone then .error .invalidValue
  else if option = .help then .error .help
  else if option = .version then .error .version
  else if !isRepeatable option && state.given.contains option then .error .repeated
  else
    let state := { state with given := option :: state.given }
    let arguments := state.arguments
    match option, value? with
    | .noDefaultFilters, _ => .ok { state with arguments := { arguments with noDefaultFilters := true } }
    | .debug, _ => .ok { state with arguments := { arguments with debug := true } }
    | option, some value => .ok { state with arguments := ← setValue arguments option value }
    | _, none => .ok state

/-- Takes account of the option that was not yet looked at. -/
def settle (state : State) : Except CommandRefusal State :=
  match state.pending with
  | none => .ok state
  | some (option, value?) => apply { state with pending := none } option value?

/-- Reads an option that may have a value in the same argument. -/
def readOption (state : State) (option : CommandOption) (value? : Option String) :
    Except CommandRefusal State := do
  -- A value in an argument of its own is awaited.
  match value? with
  | some value =>
    if option.takesValue then apply (← settle state) option (some value) else .error .unwantedValue
  | none =>
    let state ← settle state
    if option.takesValue then .ok { state with pending := some (option, none) }
    else apply state option none

/-- Reads an argument after two hyphens. -/
def readLong (state : State) (text : List Char) : Except CommandRefusal State :=
  -- An equals sign starts the value.
  let name := text.takeWhile (· ≠ '=')
  let value? := (text.dropWhile (· ≠ '=')).tail?
  match CommandOption.ofLong? (String.ofList name) with
  | none => .error .unknownArgument
  | some option => readOption state option (value?.map String.ofList)

/-- Reads letters after a hyphen. -/
def readShort (state : State) : List Char → Except CommandRefusal State
  | [] => .ok state
  | letter :: rest =>
    -- What follows the letter of an option with a value is the value.
    match CommandOption.ofShort? letter with
    | none => .error .unknownArgument
    | some option =>
      if option.takesValue then
        let value? := match rest with
          | [] => none
          | '=' :: value => some (String.ofList value)
          | value => some (String.ofList value)
        readOption state option value?
      else do readShort (← readOption state option none) rest

/-- Reads an argument without a name. -/
def readSeed (state : State) (text : String) : Except CommandRefusal State := do
  -- There is only one.
  if state.hasSeed then .error .unknownArgument
  else .ok { (← settle state) with pending := some (.seed, some text), hasSeed := true }

/-- Reads an argument. -/
def readArgument (state : State) (text : String) : Except CommandRefusal State :=
  if state.ended then readSeed state text
  else
    match state.pending, text.toList with
    | some (option, none), chars =>
      -- The awaited value may be written like an option only where that is allowed.
      let isValue := option.allowsHyphen || chars.head? ≠ some '-' || chars = ['-']
      if isValue then .ok { state with pending := some (option, some text) } else readHyphen chars
    | _, chars =>
      if chars.head? ≠ some '-' || chars = ['-'] then readSeed state text else readHyphen chars
where
  /-- Reads an argument that starts with a hyphen. -/
  readHyphen (chars : List Char) : Except CommandRefusal State :=
    match chars with
    | ['-', '-'] => .ok { state with ended := true }
    | '-' :: '-' :: rest => readLong state rest
    | _ => readShort state (chars.drop 1)

/-- The settings of a command line. -/
def parse (arguments : List String) : Except CommandRefusal CommandArguments := do
  -- Without a module to start from nothing can be done.
  let state ← settle (← arguments.foldlM readArgument {})
  if state.hasSeed then .ok state.arguments else .error .missingSeed

end ModuleScope.CommandLine
