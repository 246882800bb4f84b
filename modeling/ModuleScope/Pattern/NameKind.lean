/-! What a pattern is matched against, and the characters that its wildcard text may not hold. -/

namespace ModuleScope

/-- What the names are that a pattern is matched against. -/
inductive NameKind
  /-- Names of assemblies. -/
  | assemblyName
  /-- Names of classes. -/
  | className
  /-- Names of attributes. -/
  | attributeName
  /-- Names of files. -/
  | fileName
deriving DecidableEq, Repr

namespace NameKind

/-- The name of the kind in messages. -/
def display : NameKind → String
  | assemblyName => "assembly"
  | className => "class/type"
  | attributeName => "attribute"
  | fileName => "file"

/-- The characters that wildcard text may not hold. -/
def reserved (kind : NameKind) : List Char :=
  -- Brackets delimit the assembly of a rule, and rules keep the backslash free as well.
  match kind with
  | assemblyName | className => ['\\', '[', ']']
  | attributeName | fileName => ['[', ']']

end NameKind

end ModuleScope
