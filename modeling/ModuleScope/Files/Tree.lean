import ModuleScope.Files.Error
import ModuleScope.Path.Basic

/-! Trees of directories, files and symbolic links, and how a path is followed in one. -/

namespace ModuleScope

/-- What stands at one place of a file tree. -/
inductive FileEntry
  /-- A directory. -/
  | directory
  /-- A file: its bytes, and when it was changed in seconds and nanoseconds. -/
  | file (content : ByteArray) (seconds nanoseconds : Nat)
  /-- A file that may not be read, and when it was changed. -/
  | sealed (seconds nanoseconds : Nat)
  /-- A symbolic link and where it leads. -/
  | link (target : List Char)

/-- A place in a file tree: the names that lead to it from the root, none of them through a link. -/
abbrev Location := List (List Char)

/-- A name whose bytes are not those of a text, so that nothing can be done with it here but to list it. -/
structure RawName where
  /-- The bytes. -/
  bytes : ByteArray
  /-- No text has these bytes. -/
  foreign : String.fromUTF8? bytes = none

/-- A name that listing a directory gives. -/
inductive EntryName
  /-- A name that is a text. -/
  | text (name : List Char)
  /-- A name that is not. -/
  | raw (name : RawName)

/-- A file tree and the directory where relative paths start. -/
structure FileTree where
  /-- What stands at each place; the root is always a directory. -/
  entries : List (Location × FileEntry)
  /-- The current directory. -/
  current : Location
  /-- The names that are no texts, each with the directory that it stands in. -/
  rawNames : List (Location × RawName) := []
  /-- The directories that may not be listed. -/
  unlisted : List Location := []
  /-- The places whose names are lost when their directory is listed, as an error comes in their stead. -/
  lost : List Location := []

namespace EntryName

/-- The text that a name is. -/
def text? : EntryName → Option (List Char)
  | .text name => some name
  | .raw _ => none

end EntryName

namespace FileTree

/-- What stands at a place. -/
def entry? (tree : FileTree) (location : Location) : Option FileEntry :=
  -- The root needs no entry.
  if location = [] then some .directory else tree.entries.lookup location

/-- The bytes that a text takes. -/
def byteSize (chars : List Char) : Nat := chars.foldr (fun c size => c.utf8Size + size) 0

/-- The greatest length of a name in bytes. -/
def maxName : Nat := 255

/-- The greatest length of a path in bytes. -/
def maxPath : Nat := 4095

/-- The number of links that may be followed for one path. -/
def maxLinks : Nat := 40

/-- Where a path starts, given the directory that it is relative to. -/
def startOf (chars : List Char) (here : Location) : Location :=
  if chars.head? = some '/' then [] else here

/-- The names to be followed for a path; a slash at its end asks for a directory. -/
def namesOf (chars : List Char) : List (List Char) :=
  (Path.pieces chars).filter (· ≠ []) ++ if chars.getLast? = some '/' then [['.']] else []

/-- Follows names from a directory on; `follow` goes on at a link. -/
def walkNames (tree : FileTree)
    (follow : Location → List (List Char) → Except OsError Location) :
    Location → List (List Char) → Except OsError Location
  | here, [] => .ok here
  | here, name :: rest =>
    -- Only a directory has names in it.
    match tree.entry? here with
    | some .directory =>
      if name = ['.'] then walkNames tree follow here rest
      else if name = ['.', '.'] then walkNames tree follow here.dropLast rest
      else if maxName < byteSize name then .error .nameTooLong
      else
        match tree.entry? (here ++ [name]) with
        | none => .error .notFound
        | some (.link target) => follow (startOf target here) (namesOf target ++ rest)
        | some _ => walkNames tree follow (here ++ [name]) rest
    | _ => .error .notDirectory

/-- Follows names and at most so many links. -/
def walk (tree : FileTree) : Nat → Location → List (List Char) → Except OsError Location
  | 0 => walkNames tree fun _ _ => .error .tooManyLinks
  | links + 1 => walkNames tree (walk tree links)

/-- The place that a path leads to. -/
def locate (tree : FileTree) (path : Path) : Except OsError Location :=
  -- What the path is like is checked before anything is looked for.
  if path.chars.contains '\x00' then .error .nulByte
  else if maxPath < byteSize path.chars then .error .nameTooLong
  else if path.chars = [] then .error .notFound
  else tree.walk maxLinks (startOf path.chars tree.current) (namesOf path.chars)

/-- What stands at the place that a path leads to, which is never a link. -/
def open? (tree : FileTree) (path : Path) : Except OsError FileEntry := do
  -- Every place that a walk ends at has an entry.
  match tree.entry? (← tree.locate path) with
  | some entry => .ok entry
  | none => .error .notFound

/-- The bytes of a file. -/
def read (tree : FileTree) (path : Path) : Except OsError ByteArray := do
  -- A directory can be opened, but not read.
  match ← tree.open? path with
  | .file content _ _ => .ok content
  | .sealed _ _ => .error .denied
  | _ => .error .isDirectory

/-- Whether a path leads to a file. -/
def isFile (tree : FileTree) (path : Path) : Bool :=
  match tree.open? path with
  | .ok (.file _ _ _) | .ok (.sealed _ _) => true
  | _ => false

/-- The path of a place from the root on. -/
def pathOf (location : Location) : Path := ⟨'/' :: Path.joinPieces location⟩

/-- The path without links that leads to the same place. -/
def canonical (tree : FileTree) (path : Path) : Except OsError Path := do
  -- A short path may lead to a place whose own path is too long to be followed.
  let whole := pathOf (← tree.locate path)
  if maxPath < byteSize whole.chars then .error .nameTooLong else .ok whole

/-- The name of an entry in a directory: the last one on the way to it. -/
def nameIn (place : Location) (location : Location) : Option (List Char) :=
  if location.dropLast = place then location.getLast? else none

/-- What listing a directory gives for an entry at a place, if that is in the directory. -/
def listed? (tree : FileTree) (place : Location) (location : Location) : Option (Except OsError EntryName) :=
  (nameIn place location).map fun name => if location ∈ tree.lost then .error .failed else .ok (.text name)

/-- What listing a directory gives: one name or one error after the other. -/
def names (tree : FileTree) (path : Path) : Except OsError (List (Except OsError EntryName)) := do
  -- A name stands in the directory if it leads on from its place.
  let place ← tree.locate path
  match tree.entry? place with
  | some .directory =>
    if place ∈ tree.unlisted then .error .denied
    else
      let others := tree.rawNames.filterMap fun entry => if entry.1 = place then some (.ok (.raw entry.2)) else none
      .ok (tree.entries.filterMap (fun entry => tree.listed? place entry.1) ++ others)
  | _ => .error .notDirectory

/-- The names that are texts among what listing a directory gives; errors are passed over. -/
def textNames (listed : List (Except OsError EntryName)) : List (List Char) :=
  (listed.filterMap Except.toOption).filterMap EntryName.text?

/-- The tree with an entry at a place, which replaces the one that was there. -/
def put (tree : FileTree) (location : Location) (entry : FileEntry) : FileTree :=
  -- The other entries keep their order.
  if (tree.entries.lookup location).isSome then
    { tree with entries := tree.entries.map fun old => if old.1 = location then (location, entry) else old }
  else { tree with entries := tree.entries ++ [(location, entry)] }

/-- Follows names from a directory on and makes the directories that are missing. -/
def makeDirectories (tree : FileTree) : Location → List (List Char) → FileTree × Location
  | here, [] => (tree, here)
  | here, name :: rest =>
    -- Links to directories are followed.
    match tree.walk maxLinks here [name] with
    | .ok next => makeDirectories tree next rest
    | .error _ => makeDirectories (tree.put (here ++ [name]) .directory) (here ++ [name]) rest

/-- The tree with an entry at a path, and the directories that lead there. -/
def add (tree : FileTree) (path : Path) (entry : FileEntry) : FileTree :=
  -- A file that is there already is the one that is written to.
  let names := namesOf path.chars
  let (made, parent) := tree.makeDirectories (startOf path.chars tree.current) names.dropLast
  match names.getLast? with
  | none => made
  | some name =>
    match made.walk maxLinks parent [name], entry with
    | .ok place, .file content seconds nanoseconds => made.put place (.file content seconds nanoseconds)
    | .ok _, .directory => made
    | _, _ => made.put (parent ++ [name]) entry

/-- The tree in which there are only the directories that lead to the current one. -/
def empty (current : Location) : FileTree :=
  -- Every start of the current place is a directory.
  { entries := (List.range current.length).map fun n => (current.take (n + 1), .directory), current }

end FileTree

end ModuleScope
