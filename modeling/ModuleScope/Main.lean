import ModuleScope.Program.Run

/-! The command: looks at the files that a run may need, and prints what the program prints for them. -/

namespace ModuleScope.Command

/-- The names on the way to a place without links. -/
def locationOf (text : String) : Location := FileTree.namesOf text.toList

/-- The text of a place. -/
def textOf (location : Location) : String := (FileTree.pathOf location).display

/-- Adds a place to a tree, with the content of a file only if it is asked for. -/
def addPlace (tree : FileTree) (content : Bool) (location : Location) : IO FileTree := do
  let place ← IO.FS.realPath (textOf location)
  let data ← place.metadata
  let seconds := data.modified.sec.toNat
  let nanoseconds := data.modified.nsec.toNat
  match data.type with
  | .dir => return tree.put location .directory
  | .file =>
    -- A file whose content is known is not looked at again.
    if content then
      try return tree.put location (.file (← IO.FS.readBinFile place) seconds nanoseconds)
      catch _ => return tree.put location (.sealed seconds nanoseconds)
    else if (tree.entry? location).isSome then return tree
    else return tree.put location (.sealed seconds nanoseconds)
  | _ => return tree

/-- The place without links that a place leads to, if it leads anywhere. -/
def realPlace? (location : Location) : IO (Option Location) := do
  try return some (locationOf (← IO.FS.realPath (textOf location)).toString)
  catch _ => return none

/-- Adds all places that names lead to from a place on; links are followed at once. -/
def addWay (tree : FileTree) (content : Bool) : Location → List (List Char) → IO FileTree
  | here, [] => addPlace tree content here
  | here, name :: rest => do
    -- A name that leads nowhere ends the way.
    let tree ← addPlace tree false here
    if name = ['.'] then addWay tree content here rest
    else if name = ['.', '.'] then addWay tree content here.dropLast rest
    else
      let next := here ++ [name]
      match ← realPlace? next with
      | none => return tree
      | some place =>
        if place = next then addWay tree content place rest
        else
          let tree := tree.put next (.link (FileTree.pathOf place).chars)
          let tree ←
            (List.range place.length).foldlM (fun tree n => addPlace tree false (place.take n)) tree
          addWay tree content place rest

/-- Adds what is at a path, if anything is. -/
def addPath (tree : FileTree) (content : Bool) (path : Path) : IO FileTree := do
  try addWay tree content (FileTree.startOf path.chars tree.current) (FileTree.namesOf path.chars)
  catch _ => return tree

/-- Adds the names in a directory, or that it may not be listed. -/
def addNames (tree : FileTree) (directory : Path) : IO FileTree := do
  let tree ← addPath tree false directory
  match tree.locate directory with
  | .error _ => return tree
  | .ok place =>
    try
      let entries ← (← IO.FS.realPath directory.display).readDir
      entries.foldlM (fun tree entry => addPath tree false (directory.join (.ofString entry.fileName))) tree
    catch _ => return { tree with unlisted := place :: tree.unlisted }

/-- Adds the files of loader settings, and at most so many levels of other files. -/
def addSettings : Nat → FileTree → Path → IO FileTree
  | levels, tree, path => do
    let tree ← addPath tree true path
    match levels with
    | 0 => return tree
    | levels + 1 =>
      (Loader.linesAt tree path).foldlM (fun tree line =>
        match line with
        | .includes patterns =>
          patterns.foldlM (fun tree pattern => do
            let base := Loader.directoryOf path
            let tree ← match (base.join ⟨pattern⟩).parent? with
              | some directory => addNames tree directory
              | none => pure tree
            (Loader.includedFiles tree base pattern).foldlM (addSettings levels) tree) tree
        | _ => pure tree) tree

/-- Adds modules and all that they refer to. -/
partial def addModules (search : Elf.SearchPaths) (seen : List Path) (tree : FileTree) :
    List Path → IO FileTree
  | [] => return tree
  | path :: rest => do
    -- Each path is looked at once.
    if seen.contains path then addModules search seen tree rest
    else
      let tree ← addPath tree true path
      let tree ← (Elf.candidatesOf tree search path).foldlM (addPath · false) tree
      let references := ((Elf.declarationAt tree search path).map ModuleDeclaration.references).toOption.getD []
      addModules search (path :: seen) tree (rest ++ references)

/-- The files that a run may need. -/
def treeFor (arguments : CommandArguments) : IO FileTree := do
  let here ← IO.currentDir
  let tree := FileTree.empty (locationOf here.toString)
  let tree ← arguments.config.toList.foldlM (addPath · true) tree
  let tree ← addSettings (Loader.maxIncludes + 1) tree Loader.systemSettings
  match Plan.ofArguments tree 1 arguments with
  | .error _ => return tree
  | .ok plan => addModules plan.search [] tree [plan.seed]

/-- How many modules are read at the same time if nothing else is said: one less than there are processors. -/
def defaultLimit : IO Nat := do
  let text ← try IO.FS.readFile "/proc/cpuinfo" catch _ => pure ""
  return max ((text.splitOn "\n").countP (·.startsWith "processor") - 1) 1

end ModuleScope.Command

/-- Runs the program on a command line. -/
def main (arguments : List String) : IO UInt32 := do
  let tree ← match ModuleScope.CommandLine.parse arguments with
    | .ok settings => ModuleScope.Command.treeFor settings
    | .error _ => pure (ModuleScope.FileTree.empty [])
  let printout :=
    ModuleScope.Printout.ofCommandLine tree (← ModuleScope.Command.defaultLimit) arguments
  (← IO.getStdout).putStr printout.output
  (← IO.getStderr).putStr printout.errors
  return printout.exitCode.toUInt32
