/-! The ways in which a file cannot be used. -/

namespace ModuleScope

/-- Why the operating system refuses to look at a file. -/
inductive OsError
  /-- There is nothing of this name. -/
  | notFound
  /-- The device fails. -/
  | failed
  /-- The file may not be read. -/
  | denied
  /-- The file cannot be mapped into memory. -/
  | noDevice
  /-- A name is looked for in something that is no directory. -/
  | notDirectory
  /-- A directory cannot be read like a file. -/
  | isDirectory
  /-- A name or the whole path is too long. -/
  | nameTooLong
  /-- Too many links had to be followed. -/
  | tooManyLinks
  /-- The path holds the character that ends a text for the system. -/
  | nulByte
deriving DecidableEq, Repr

namespace OsError

/-- The system's own words, with its number for the error. -/
def message : OsError → String
  | notFound => "No such file or directory (os error 2)"
  | failed => "Input/output error (os error 5)"
  | denied => "Permission denied (os error 13)"
  | noDevice => "No such device (os error 19)"
  | notDirectory => "Not a directory (os error 20)"
  | isDirectory => "Is a directory (os error 21)"
  | nameTooLong => "File name too long (os error 36)"
  | tooManyLinks => "Too many levels of symbolic links (os error 40)"
  | nulByte => "file name contained an unexpected NUL byte"

end OsError

/-- Why reading or writing failed. -/
inductive IoFailure
  /-- The system refused. -/
  | system (error : OsError)
  /-- Something was not found, as the text says. -/
  | missing (text : String)
  /-- Something else went wrong, as the text says. -/
  | other (text : String)
deriving DecidableEq, Repr

namespace IoFailure

/-- What is said about the failure. -/
def message : IoFailure → String
  | system error => error.message
  | missing text => text
  | other text => text

/-- Whether the failure says that there is nothing of the name. -/
def isMissing (failure : IoFailure) : Bool :=
  -- The system has one error for this.
  match failure with
  | system error => error = .notFound
  | missing _ => true
  | other _ => false

end IoFailure

end ModuleScope
