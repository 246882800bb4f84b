import ModuleScope.Digest.Basic
import ModuleScope.Elf.Declaration

/-! What is known of a module that was found. -/

namespace ModuleScope

/-- When a file was changed, in seconds and nanoseconds. -/
structure FileTime where
  /-- Whole seconds. -/
  seconds : Nat
  /-- Nanoseconds besides them. -/
  nanoseconds : Nat
deriving DecidableEq, Repr

/-- A module that was found. -/
structure FoundModule where
  /-- Where it was found. -/
  path : Path
  /-- The digest of its bytes. -/
  digest : Digest
  /-- When its file was changed; this is known of files only. -/
  modified : Option FileTime
  /-- What it says of itself. -/
  declared : ModuleDeclaration
deriving DecidableEq, Repr

namespace FoundModule

/-- The name of the module's file, or its whole path if that has no name at its end. -/
def name (module : FoundModule) : List Char := module.path.fileName?.getD module.path.chars

/-- The name by which coverage is decided: that of the file without its last extension. -/
def assemblyName (module : FoundModule) : List Char :=
  -- A name that is no file name stays as it is.
  match (Path.mk module.name).fileName? with
  | some name => Path.stem name
  | none => module.name

end FoundModule

namespace FileTree

/-- When the file at a path was changed. -/
def modified (tree : FileTree) (path : Path) : Except OsError (Option FileTime) := do
  -- The time of a directory is not kept.
  match ← tree.open? path with
  | .file _ seconds nanoseconds | .sealed seconds nanoseconds => .ok (some ⟨seconds, nanoseconds⟩)
  | _ => .ok none

end FileTree

/-- Where a run gets what it needs to know of a module. -/
structure ModuleSources where
  /-- Reads what a module says of itself. -/
  read : Path → Except ModuleFailure ModuleDeclaration
  /-- Computes the digest of a module. -/
  digest : Path → Except ModuleFailure Digest
  /-- Looks up when a module was changed. -/
  modified : Path → Except OsError (Option FileTime)

namespace ModuleSources

/-- Reads, hashes and dates a module. -/
def describe (sources : ModuleSources) (path : Path) : Except ModuleFailure FoundModule := do
  -- The first failure counts.
  let declared ← sources.read path
  let digest ← sources.digest path
  match sources.modified path with
  | .error error => .error (.ofSystem path error)
  | .ok modified => .ok ⟨path, digest, modified, declared⟩

/-- The modules of a file tree. -/
def ofTree (tree : FileTree) (search : Elf.SearchPaths) : ModuleSources :=
  ⟨Elf.declarationAt tree search, Digest.ofFile tree, tree.modified⟩

end ModuleSources

end ModuleScope
