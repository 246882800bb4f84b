import ModuleScope.Proofs.Elf.References

/-! Which file the name of a library leads to, and by which path. -/

namespace ModuleScope.Elf

open FileTree

/-- A path leads to a place where a file stands. -/
structure LeadsToFile (tree : FileTree) (path : Path) (place : Location) : Prop where
  /-- Links are followed on the way. -/
  leads : tree.locate path = .ok place
  /-- It may be a file that cannot be read. -/
  file : (∃ content seconds nanoseconds, tree.entry? place = some (.file content seconds nanoseconds)) ∨
    ∃ seconds nanoseconds, tree.entry? place = some (.sealed seconds nanoseconds)

/-- The directories that a module itself names; the older rule counts only without the newer one. -/
inductive Embeds (info : Linkage) (origin : Path) : List Path → Prop
  /-- The newer rule. -/
  | runpath {list : List Char} (newer : info.runpath = some list) :
    Embeds info origin (Loader.listedDirectories list origin)
  /-- The older rule. -/
  | rpath {list : List Char} (newer : info.runpath = none) (older : info.rpath = some list) :
    Embeds info origin (Loader.listedDirectories list origin)
  /-- No rule. -/
  | nothing (newer : info.runpath = none) (older : info.rpath = none) : Embeds info origin []

/-- A library that is looked for, and where. -/
structure Lookup where
  /-- The directory of the module that needs it. -/
  moduleDirectory : Path
  /-- The directories that the module names. -/
  embedded : List Path := []
  /-- The directories that the user names. -/
  configured : List Path := []
  /-- The directories of the system. -/
  system : List Path := []
  /-- The name of the library. -/
  needed : List Char

namespace Lookup

/-- The directories in the order in which they are searched. -/
def directories (lookup : Lookup) : List Path :=
  lookup.moduleDirectory :: (lookup.embedded ++ (lookup.configured ++ lookup.system))

/-- The path of the library in a directory. -/
def pathIn (lookup : Lookup) (directory : Path) : Path := directory.join ⟨lookup.needed⟩

/-- The path that the library is given. -/
def answer (lookup : Lookup) (tree : FileTree) : Path :=
  resolve tree ⟨lookup.configured, lookup.system⟩ lookup.moduleDirectory lookup.needed lookup.embedded

/-- The library is nowhere. -/
def Lost (lookup : Lookup) (tree : FileTree) : Prop :=
  ∀ directory ∈ lookup.directories, ∀ place, ¬LeadsToFile tree (lookup.pathIn directory) place

/-- A directory is the first one in which the name leads to a file, which stands at a place. -/
structure Finds (lookup : Lookup) (tree : FileTree) (directory : Path) (place : Location) : Prop where
  /-- The name leads to the file. -/
  leads : LeadsToFile tree (lookup.pathIn directory) place
  /-- In no earlier directory does it lead to one. -/
  first : ∃ before after, lookup.directories = before ++ directory :: after ∧
    ∀ earlier ∈ before, ∀ other, ¬LeadsToFile tree (lookup.pathIn earlier) other

end Lookup

variable {tree : FileTree} {path : Path} {place : Location} {lookup : Lookup} {directory : Path}

/-- What a path leads to is a file just if there is a place for it. -/
theorem isFile_iff_leads : tree.isFile path = true ↔ ∃ place, LeadsToFile tree path place := by
  rw [isFile_iff]
  constructor
  · -- What can be opened stands at the place that the walk ends at.
    rintro (⟨content, seconds, nanoseconds, opened⟩ | ⟨seconds, nanoseconds, opened⟩)
    · obtain ⟨place, located, found⟩ := entry_of_open? opened
      exact ⟨place, located, .inl ⟨content, seconds, nanoseconds, found⟩⟩
    · obtain ⟨place, located, found⟩ := entry_of_open? opened
      exact ⟨place, located, .inr ⟨seconds, nanoseconds, found⟩⟩
  · -- The other way round, what stands at the end of the walk is what is opened.
    rintro ⟨place, located, file⟩
    have opened {entry : FileEntry} (found : tree.entry? place = some entry) :
        tree.open? path = .ok entry := by
      simp [open?, located, found, Bind.bind, Except.bind]
    rcases file with ⟨content, seconds, nanoseconds, found⟩ | ⟨seconds, nanoseconds, found⟩
    · exact .inl ⟨content, seconds, nanoseconds, opened found⟩
    · exact .inr ⟨seconds, nanoseconds, opened found⟩

/-- The directories that a module names are those of one of the rules. -/
theorem embeds_libraryDirectories (info : Linkage) (origin : Path) :
    Embeds info origin (info.libraryDirectories origin) := by
  unfold Linkage.libraryDirectories
  -- The older rule is not even looked at if there is a newer one.
  cases newer : info.runpath with
  | some list => exact .runpath newer
  | none =>
    cases older : info.rpath with
    | some list => exact .rpath newer older
    | none => exact .nothing newer older

/-- Reading a path that leads to no file fails, and the error names the path. -/
theorem declarationAt_of_not_file (search : SearchPaths) (none : tree.isFile path = false) :
    ∃ failure, declarationAt tree search path = .error failure ∧ failure.path = path := by
  have refused : ∃ failure, contentOf tree path = .error failure ∧ failure.path = path := by
    -- A path that cannot be opened and one that leads to no file are refused in different places.
    cases opened : tree.open? path with
    | error error =>
      -- Every kind of error of the system is passed on with the path.
      refine ⟨.ofSystem path error, by simp [contentOf, opened], ?_⟩
      unfold ModuleFailure.ofSystem ModuleFailure.ofIo
      split <;> rfl
    | ok entry =>
      cases entry with
      -- Files and sealed files are what there is not by assumption.
      | file content seconds nanoseconds => simp [isFile, opened] at none
      | «sealed» seconds nanoseconds => simp [isFile, opened] at none
      -- The file of a directory has no content that could be read.
      | directory => exact ⟨.ofSystem path .noDevice, by simp [contentOf, opened], rfl⟩
      | link target => exact ⟨.ofSystem path .noDevice, by simp [contentOf, opened], rfl⟩
  obtain ⟨failure, refused, named⟩ := refused
  exact ⟨failure, by simp [declarationAt, refused, Bind.bind, Except.bind], named⟩

namespace Lookup

/-- The paths at which the library is looked for are those in the directories. -/
theorem candidates_eq (lookup : Lookup) :
    candidates ⟨lookup.configured, lookup.system⟩ lookup.moduleDirectory lookup.needed lookup.embedded =
      lookup.directories.map lookup.pathIn := by
  simp only [candidates, searchOrder, directories, List.cons_append, List.append_assoc]
  rfl

/-- The first path that leads to a file is that in the first directory with the file. -/
theorem Finds.find?_eq (finds : lookup.Finds tree directory place) :
    (candidates ⟨lookup.configured, lookup.system⟩ lookup.moduleDirectory lookup.needed
      lookup.embedded).find? tree.isFile = some (lookup.pathIn directory) := by
  obtain ⟨before, after, order, first⟩ := finds.first
  rw [candidates_eq, order, List.map_append, List.map_cons, List.find?_eq_some_iff_append]
  -- The directories before it become paths before its path, and none of those leads to a file.
  refine ⟨isFile_iff_leads.mpr ⟨place, finds.leads⟩, before.map lookup.pathIn, after.map lookup.pathIn,
    rfl, fun candidate member => ?_⟩
  obtain ⟨earlier, among, rfl⟩ := List.mem_map.mp member
  rw [Bool.not_eq_true', Bool.eq_false_iff, ne_eq, isFile_iff_leads]
  exact fun ⟨other, leads⟩ => first earlier among other leads

/-- A library that is nowhere is at none of the paths. -/
theorem Lost.find?_eq (lost : lookup.Lost tree) :
    (candidates ⟨lookup.configured, lookup.system⟩ lookup.moduleDirectory lookup.needed
      lookup.embedded).find? tree.isFile = none := by
  rw [candidates_eq, List.find?_eq_none]
  intro candidate member
  obtain ⟨directory, among, rfl⟩ := List.mem_map.mp member
  rw [isFile_iff_leads]
  exact fun ⟨place, leads⟩ => lost directory among place leads

/-- A library is in a first directory or it is nowhere. -/
theorem finds_or_lost (lookup : Lookup) (tree : FileTree) :
    (∃ directory place, lookup.Finds tree directory place) ∨ lookup.Lost tree := by
  -- The search over the directories decides it: its first hit is the first directory.
  cases hit : lookup.directories.find? fun directory => tree.isFile (lookup.pathIn directory) with
  | none =>
    refine .inr fun directory among place leads => ?_
    exact List.find?_eq_none.mp hit directory among (isFile_iff_leads.mpr ⟨place, leads⟩)
  | some directory =>
    obtain ⟨file, before, after, order, first⟩ := List.find?_eq_some_iff_append.mp hit
    obtain ⟨place, leads⟩ := isFile_iff_leads.mp file
    refine .inl ⟨directory, place, leads, before, after, order, fun earlier among other found => ?_⟩
    have absent := first earlier among
    rw [isFile_iff_leads.mpr ⟨other, found⟩] at absent
    cases absent

/-- The path of a library that is found is that of its place, unless that is too long to be followed. -/
theorem Finds.answer_eq (slashless : '/' ∉ lookup.needed) (finds : lookup.Finds tree directory place) :
    lookup.answer tree =
      if byteSize (pathOf place).chars ≤ maxPath then pathOf place else lookup.pathIn directory := by
  rw [answer, resolve_of_found slashless finds.find?_eq, canonical, finds.leads.leads]
  simp only [Bind.bind, Except.bind]
  -- The path of the place is only given if the system can still follow it.
  by_cases short : byteSize (pathOf place).chars ≤ maxPath
  · rw [if_neg (Nat.not_lt.mpr short), if_pos short]
    rfl
  · rw [if_pos (Nat.not_le.mp short), if_neg short]
    rfl

/-- The path of a library that is nowhere is that next to the module, and cannot be read. -/
theorem Lost.answer_eq (slashless : '/' ∉ lookup.needed) (lost : lookup.Lost tree) :
    lookup.answer tree = lookup.pathIn lookup.moduleDirectory ∧
      ∀ search, ∃ failure, declarationAt tree search (lookup.answer tree) = .error failure ∧
        failure.path = lookup.pathIn lookup.moduleDirectory := by
  -- With no hit the search falls back to the directory of the module.
  have beside : lookup.answer tree = lookup.pathIn lookup.moduleDirectory := by
    unfold answer resolve
    rw [if_neg (by simpa using slashless), lost.find?_eq]
    rfl
  have absent : tree.isFile (lookup.answer tree) = false :=
    isFile_resolve_of_lost slashless lost.find?_eq
  rw [beside] at absent ⊢
  exact ⟨rfl, fun search => declarationAt_of_not_file search absent⟩

/-- A directory of the library's name next to the module, and a link of that name in another directory. -/
def linkedTree : FileTree where
  entries :=
    [([['d']], .directory), ([['d'], ['b']], .directory), ([['s']], .directory),
      ([['s'], ['b']], .link ['/', 't', '/', 'b']), ([['t']], .directory), ([['t'], ['b']], .sealed 0 0)]
  current := []

/-- A name of 252 bytes. -/
def longName : List Char := List.replicate 63 '𝄞'

/-- Two links lead to a directory below which there are places whose own path is too long to be followed. -/
def deepTree : FileTree where
  entries :=
    [([['l']], .link (pathOf (List.replicate 14 longName)).chars),
      ([['m']], .link (pathOf (List.replicate 14 longName)).chars)] ++
    (List.range 17).map (fun depth => (List.replicate (depth + 1) longName, .directory)) ++
    [(List.replicate 17 longName ++ [['b']], .sealed 0 0)]
  current := []

/-- A library is looked for in a directory that is reached by one of the links. -/
def deepLookup (link : Char) : Lookup where
  moduleDirectory := pathOf ([link] :: List.replicate 3 longName)
  needed := ['b']

end Lookup

end ModuleScope.Elf
