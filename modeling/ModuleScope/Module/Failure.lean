import ModuleScope.Files.Error
import ModuleScope.Path.Basic

/-! The ways in which a module cannot be read. -/

namespace ModuleScope

/-- Why a module cannot be read. -/
inductive ModuleFailure
  /-- There is nothing at the path. -/
  | notFound (path : Path)
  /-- What is at the path is no module. -/
  | unreadable (path : Path) (reason : String)
  /-- Reading failed. -/
  | io (path : Path) (failure : IoFailure)
deriving DecidableEq, Repr

namespace ModuleFailure

/-- The error for a failure at a path. -/
def ofIo (path : Path) (failure : IoFailure) : ModuleFailure :=
  -- A missing module is an error of its own.
  if failure.isMissing then notFound path else io path failure

/-- The error for what the system said about a path. -/
def ofSystem (path : Path) (error : OsError) : ModuleFailure := ofIo path (.system error)

/-- The path of the module. -/
def path : ModuleFailure → Path
  | notFound path => path
  | unreadable path _ => path
  | io path _ => path

/-- What is said about the module. -/
def message : ModuleFailure → String
  | notFound path => "Missing module: " ++ path.display
  | unreadable path reason => "Unreadable module " ++ path.display ++ ": " ++ reason
  | io path failure => "IO error reading module " ++ path.display ++ ": " ++ failure.message

/-- What is behind the error, if anything is. -/
def causes : ModuleFailure → List String
  | notFound _ | unreadable _ _ => []
  | io _ failure => [failure.message]

end ModuleFailure

end ModuleScope
