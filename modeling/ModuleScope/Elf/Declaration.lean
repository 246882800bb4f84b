import ModuleScope.Elf.Dynamic
import ModuleScope.Files.Tree
import ModuleScope.Loader.SearchList
import ModuleScope.Module.Failure

/-! Reading a module from a file tree, and finding the files of the libraries that it needs. -/

namespace ModuleScope

/-- What a module says of itself. -/
structure ModuleDeclaration where
  /-- The name that the module declares. -/
  name : List Char
  /-- The modules that it refers to, in order. -/
  references : List Path
deriving DecidableEq, Repr

namespace Elf

/-- Where libraries are looked for, besides what modules say. -/
structure SearchPaths where
  /-- The directories that the user names. -/
  configured : List Path := []
  /-- The directories of the system. -/
  system : List Path := []
deriving DecidableEq, Repr

namespace Linkage

/-- The directories that a module names; the older rule counts only without the newer one. -/
def libraryDirectories (info : Linkage) (origin : Path) : List Path :=
  -- The list may refer to the directory of the module.
  match info.runpath.or info.rpath with
  | none => []
  | some list => Loader.listedDirectories list origin

end Linkage

/-- The directories in which a module's libraries are looked for, in order. -/
def searchOrder (search : SearchPaths) (moduleDirectory : Path) (embedded : List Path) : List Path :=
  moduleDirectory :: embedded ++ search.configured ++ search.system

/-- The paths at which a library is looked for, in order. -/
def candidates (search : SearchPaths) (moduleDirectory : Path) (needed : List Char)
    (embedded : List Path) : List Path :=
  (searchOrder search moduleDirectory embedded).map (·.join ⟨needed⟩)

/-- The path of a library that a module needs. -/
def resolve (tree : FileTree) (search : SearchPaths) (moduleDirectory : Path) (needed : List Char)
    (embedded : List Path) : Path :=
  -- A name with a slash is a path; one that is nowhere is reported next to the module.
  if needed.contains '/' then moduleDirectory.join ⟨needed⟩
  else
    match (candidates search moduleDirectory needed embedded).find? tree.isFile with
    | some found => (tree.canonical found).toOption.getD found
    | none => moduleDirectory.join ⟨needed⟩

/-- The directory of a module. -/
def directoryOf (path : Path) : Path :=
  -- A name alone stands in the current directory.
  match path.parent? with
  | some directory => if directory.chars = [] then ⟨['.']⟩ else directory
  | none => ⟨['.']⟩

/-- The bytes of a module. -/
def contentOf (tree : FileTree) (path : Path) : Except ModuleFailure ByteArray :=
  -- A directory has a size, but it cannot be mapped.
  match tree.open? path with
  | .error error => .error (.ofSystem path error)
  | .ok (.file content _ _) =>
    if content.isEmpty then .error (.unreadable path FormatError.emptyFile.message) else .ok content
  | .ok (.sealed _ _) => .error (.ofSystem path .denied)
  | .ok _ => .error (.ofSystem path .noDevice)

/-- What a module with this dynamic section says of itself. -/
def imageOf (tree : FileTree) (search : SearchPaths) (path : Path) (info : Linkage) : ModuleDeclaration :=
  -- A module that declares no name has that of its file.
  let directory := directoryOf path
  let embedded := info.libraryDirectories directory
  ⟨info.soname.getD (path.fileName?.getD []),
    info.needed.map fun needed => resolve tree search directory needed embedded⟩

/-- The paths at which the libraries of a module are looked for. -/
def candidatesOf (tree : FileTree) (search : SearchPaths) (path : Path) : List Path :=
  -- A module that cannot be read has no libraries.
  match (contentOf tree path).toOption.bind fun content => (parse content).toOption with
  | none => []
  | some info =>
    let directory := directoryOf path
    info.needed.flatMap fun needed =>
      candidates search directory needed (info.libraryDirectories directory)

/-- Reads a module. -/
def declarationAt (tree : FileTree) (search : SearchPaths) (path : Path) :
    Except ModuleFailure ModuleDeclaration := do
  let content ← contentOf tree path
  match parse content with
  | .error error => .error (.unreadable path error.message)
  | .ok info => .ok (imageOf tree search path info)

end Elf

end ModuleScope
