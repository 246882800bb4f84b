import ModuleScope.Path.Basic
import ModuleScope.Text.Replace

/-! Lists of directories in which a module's references are looked for. -/

namespace ModuleScope.Loader

/-- The word for the module's own directory in braces. -/
def bracedOrigin : List Char := "$\x7bORIGIN\x7d".toList

/-- The word for the module's own directory. -/
def plainOrigin : List Char := "$ORIGIN".toList

/-- A directory of a list with the words for the module's own directory replaced. -/
def expandOrigin (origin : Path) (directory : List Char) : Path :=
  -- The word in braces is replaced first.
  ⟨Text.replaceAll plainOrigin origin.chars (Text.replaceAll bracedOrigin origin.chars directory)⟩

/-- The directories of a list that is separated by colons. -/
def listedDirectories (list : List Char) (origin : Path) : List Path :=
  -- Empty pieces are no directories.
  (Text.words (· = ':') list).map (expandOrigin origin)

end ModuleScope.Loader
