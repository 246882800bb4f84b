import ModuleScope.Loader.Include
import ModuleScope.Unicode.Property

/-! The directories that the settings of the system's loader name. -/

namespace ModuleScope.Loader

/-- What a line of the settings says. -/
inductive Line
  /-- Nothing that matters. -/
  | nothing
  /-- Other files are to be read in this place. -/
  | includes (patterns : List (List Char))
  /-- Directories. -/
  | directories (paths : List Path)
deriving DecidableEq, Repr

/-- The lines of a text; a carriage return before the end of a line does not belong to it. -/
def linesOf (text : List Char) : List (List Char) :=
  -- The end of the last line starts no other line.
  let pieces := Text.splitOn (· = '\n') text
  let pieces := if pieces.getLast? = some [] then pieces.dropLast else pieces
  pieces.map fun line => if line.getLast? = some '\r' then line.dropLast else line

/-- Reads a line; a number sign starts a comment. -/
def readLine (line : List Char) : Line :=
  -- The first word decides.
  let line := line.takeWhile (· ≠ '#')
  match Text.words Unicode.isBlank line with
  | [] => .nothing
  | first :: rest =>
    if first = "hwcap".toList then .nothing
    else if first = "include".toList then .includes rest
    else .directories
      ((Text.words (fun c => Unicode.isBlank c || c = ':' || c = ',') line).map Path.mk)

/-- What the lines of a file say. -/
def linesAt (tree : FileTree) (path : Path) : List Line :=
  -- A file that cannot be read as text says nothing.
  match tree.read path with
  | .error _ => []
  | .ok content =>
    match String.fromUTF8? content with
    | none => []
    | some text => (linesOf text.toList).map readLine

/-- The greatest number of files around a file that is read. -/
def maxIncludes : Nat := 8

/-- The directory of a file. -/
def directoryOf (path : Path) : Path := path.parent?.getD ⟨['/']⟩

/-- The directories that a file names, where other files are read with `readFile`. -/
def readSettings (tree : FileTree) (readFile : Path → List Path) (path : Path) : List Path :=
  -- Other files are read in the place where they are included.
  (linesAt tree path).flatMap fun line =>
    match line with
    | .nothing => []
    | .directories paths => paths
    | .includes patterns =>
      patterns.flatMap fun pattern =>
        (includedFiles tree (directoryOf path) pattern).flatMap readFile

/-- The directories that a file and at most so many levels of other files name. -/
def settingsFrom (tree : FileTree) : Nat → Path → List Path
  | 0 => readSettings tree fun _ => []
  | levels + 1 => readSettings tree (settingsFrom tree levels)

/-- The directories that a file of loader settings names. -/
def settingsDirectories (tree : FileTree) (path : Path) : List Path :=
  settingsFrom tree maxIncludes path

/-- The file with the settings of the system's loader. -/
def systemSettings : Path := Path.ofString "/etc/ld.so.conf"

/-- The directories that are searched after all others. -/
def trustedDirectories : List Path :=
  -- The first two depend on the kind of machine.
  ["/lib/x86_64-linux-gnu", "/usr/lib/x86_64-linux-gnu", "/lib64", "/usr/lib64", "/lib", "/usr/lib"].map
    Path.ofString

/-- Paths without those that are the same as an earlier one. -/
def withoutRepeats : List Path → List Path
  | [] => []
  | path :: rest =>
    -- The first one stays.
    path :: (withoutRepeats rest).filter fun other => !decide (path.Same other)

/-- The directories that the system's loader searches. -/
def systemDirectories (tree : FileTree) : List Path :=
  withoutRepeats (settingsDirectories tree systemSettings ++ trustedDirectories)

end ModuleScope.Loader
