import ModuleScope.Files.Tree
import ModuleScope.Text.Replace

/-! The files that an include line of a loader configuration means. -/

namespace ModuleScope.Loader

/-- Splits a name at its first star. -/
def splitAtStar? (name : List Char) : Option (List Char × List Char) :=
  -- Later stars stand for themselves.
  match name.dropWhile (· ≠ '*') with
  | [] => none
  | _ :: after => some (name.takeWhile (· ≠ '*'), after)

/-- Whether a name starts and ends with the given texts, which do not overlap in it. -/
def isBetween (start stop name : List Char) : Bool :=
  start.length + stop.length ≤ name.length && start.isPrefixOf name && stop.isSuffixOf name

/-- Whether a name comes before another one or is the same. -/
def isOrdered (first second : List Char) : Bool :=
  -- Names are compared character by character.
  !second.lex first fun c d => c.toNat < d.toNat

/-- The files that a pattern in a file of the directory `base` means. -/
def includedFiles (tree : FileTree) (base : Path) (pattern : List Char) : List Path :=
  -- Only the last name of a pattern may have a star.
  let path := base.join ⟨pattern⟩
  match path.parent?, path.fileName? with
  | some directory, some name =>
    match splitAtStar? name with
    | none => [path]
    | some (start, stop) =>
      match tree.names directory with
      | .error _ => []
      | .ok listed =>
        (((FileTree.textNames listed).filter (isBetween start stop)).mergeSort isOrdered).map
          fun name => directory.join ⟨name⟩
  | _, _ => []

end ModuleScope.Loader
