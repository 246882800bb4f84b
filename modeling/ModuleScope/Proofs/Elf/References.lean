import ModuleScope.Proofs.Discovery.Reachable
import ModuleScope.Proofs.Files.Canonical

/-! Modules in a file tree: which paths can be read, and where their references lead. -/

namespace ModuleScope

namespace Elf

/-- What the dynamic section of the module at a path says, if there is a module. -/
def linkage? (tree : FileTree) (path : Path) : Option Linkage :=
  (contentOf tree path).toOption.bind fun content => (parse content).toOption

/-- What the module at a path needs, by name, and the paths that it refers to for that. -/
def needsAt (tree : FileTree) (search : SearchPaths) (path : Path) : List (List Char × Path) :=
  (linkage? tree path).elim [] fun info => info.needed.map fun needed =>
    (needed, resolve tree search (directoryOf path) needed (info.libraryDirectories (directoryOf path)))

/-- What stands at a place is a module if it is a file at all. -/
def isSound : FileEntry → Bool
  | .file content _ _ => (parse content).toOption.isSome
  | .sealed _ _ => false
  | _ => true

variable {tree : FileTree} {search : SearchPaths} {path reference : Path} {info : Linkage} {needed : List Char}

/-- Only a file has bytes. -/
theorem open?_of_contentOf {content : ByteArray} (held : contentOf tree path = .ok content) :
    ∃ seconds nanoseconds, tree.open? path = .ok (.file content seconds nanoseconds) := by
  -- Whatever else stands at the path has no bytes.
  unfold contentOf at held
  split at held
  · cases held
  · rename_i seconds nanoseconds opened
    split at held <;> cases held
    exact ⟨seconds, nanoseconds, opened⟩
  · cases held
  · cases held

/-- An empty file is no module. -/
theorem filled_of_parse {content : ByteArray} (parsed : parse content = .ok info) : content.isEmpty = false := by
  rw [Bool.eq_false_iff]
  intro empty
  have size : content.size = 0 := by simpa [ByteArray.isEmpty] using empty
  -- The kind of a file is told by its first bytes.
  have unknown : wordSizeOf content = .error .unknown := by
    simp [wordSizeOf, slice?, size]
  unfold parse at parsed
  rw [unknown] at parsed
  cases parsed

/-- A module has bytes that can be parsed. -/
theorem linkage?_eq_some : linkage? tree path = some info ↔
    ∃ content, contentOf tree path = .ok content ∧ parse content = .ok info := by
  unfold linkage?
  cases contentOf tree path with
  | error error => simp [Except.toOption]
  | ok content =>
    cases parsed : parse content <;> simp [Except.toOption, parsed]

/-- What is opened stands at the place that the path leads to. -/
theorem entry_of_open? {entry : FileEntry} (opened : tree.open? path = .ok entry) :
    ∃ place, tree.locate path = .ok place ∧ tree.entry? place = some entry := by
  unfold FileTree.open? at opened
  -- A path can be opened only if it leads somewhere where something stands.
  cases located : tree.locate path with
  | error error => simp [located, Bind.bind, Except.bind] at opened
  | ok place =>
    simp only [located, Bind.bind, Except.bind] at opened
    split at opened
    · rename_i found
      cases opened
      exact ⟨place, rfl, found⟩
    · cases opened

/-- A path that leads to a file is opened as one. -/
theorem isFile_iff : tree.isFile path = true ↔
    (∃ content seconds nanoseconds, tree.open? path = .ok (.file content seconds nanoseconds)) ∨
      ∃ seconds nanoseconds, tree.open? path = .ok (.sealed seconds nanoseconds) := by
  unfold FileTree.isFile
  split <;> simp_all

/-- Only a file is a module. -/
theorem isFile_of_linkage? (linked : linkage? tree path = some info) : tree.isFile path = true := by
  obtain ⟨content, held, _⟩ := linkage?_eq_some.mp linked
  obtain ⟨seconds, nanoseconds, opened⟩ := open?_of_contentOf held
  exact isFile_iff.mpr (Or.inl ⟨content, seconds, nanoseconds, opened⟩)

/-- A run that finds a module at a path knows what its dynamic section says. -/
theorem linkage?_of_describe {module : FoundModule}
    (described : (ModuleSources.ofTree tree search).describe path = .ok module) :
    ∃ info, linkage? tree path = some info ∧ module.declared = imageOf tree search path info := by
  -- The module was read, and reading means parsing the bytes of the file.
  have read : declarationAt tree search path = .ok module.declared := (ModuleSources.describe_ok described).2.1
  unfold declarationAt at read
  cases held : contentOf tree path with
  | error error => simp [held, Bind.bind, Except.bind] at read
  | ok content =>
    simp only [held, Bind.bind, Except.bind] at read
    cases parsed : parse content with
    | error error => simp [parsed] at read
    | ok info =>
      simp only [parsed, Except.ok.injEq] at read
      exact ⟨info, linkage?_eq_some.mpr ⟨content, held, parsed⟩, read.symm⟩

/-- A run finds a module wherever there is one: its file can be hashed and dated as well. -/
theorem describe_of_linkage? (linked : linkage? tree path = some info) :
    ∃ module, (ModuleSources.ofTree tree search).describe path = .ok module ∧
      module.declared = imageOf tree search path info := by
  obtain ⟨content, held, parsed⟩ := linkage?_eq_some.mp linked
  obtain ⟨seconds, nanoseconds, opened⟩ := open?_of_contentOf held
  have read : declarationAt tree search path = .ok (imageOf tree search path info) := by
    simp [declarationAt, held, parsed, Bind.bind, Except.bind]
  -- Hashing and dating need no more than the opened file.
  have hashed : Digest.ofFile tree path = .ok ⟨Sha256.hash content⟩ := by
    simp [Digest.ofFile, FileTree.read, opened, Bind.bind, Except.bind]
  have dated : tree.modified path = .ok (some ⟨seconds, nanoseconds⟩) := by
    simp [FileTree.modified, opened, Bind.bind, Except.bind]
  refine ⟨⟨path, ⟨Sha256.hash content⟩, some ⟨seconds, nanoseconds⟩, imageOf tree search path info⟩, ?_, rfl⟩
  simp only [ModuleSources.describe, ModuleSources.ofTree, read, hashed, dated, Bind.bind, Except.bind]

/-- A module needs just the names that its dynamic section says. -/
theorem mem_needsAt : (needed, reference) ∈ needsAt tree search path ↔
    ∃ info, linkage? tree path = some info ∧ needed ∈ info.needed ∧
      resolve tree search (directoryOf path) needed (info.libraryDirectories (directoryOf path)) = reference := by
  unfold needsAt
  cases linked : linkage? tree path with
  | none => simp
  | some info => simp

/-- A path refers to what its module needs, and to nothing else. -/
theorem refersTo_iff : (ModuleSources.ofTree tree search).references.RefersTo path reference ↔
    ∃ needed, (needed, reference) ∈ needsAt tree search path := by
  constructor
  · -- What is listed comes of the module that was found, and that of its dynamic section.
    rintro ⟨listed, answered, member⟩
    cases described : (ModuleSources.ofTree tree search).describe path with
    | error error => simp [ModuleSources.references, described, Except.map] at answered
    | ok module =>
      have both := ModuleSources.references_of_describe described
      rw [both.1, Except.ok.injEq] at answered
      obtain ⟨info, linked, declared⟩ := linkage?_of_describe described
      rw [← answered, declared] at member
      obtain ⟨needed, listed, resolved⟩ := List.mem_map.mp member
      exact ⟨needed, mem_needsAt.mpr ⟨info, linked, listed, resolved⟩⟩
  · -- A path with a dynamic section has a module, which lists what its names lead to.
    rintro ⟨needed, member⟩
    obtain ⟨info, linked, listed, resolved⟩ := mem_needsAt.mp member
    obtain ⟨module, described, declared⟩ := @describe_of_linkage? tree search path info linked
    refine ⟨module.declared.references, (ModuleSources.references_of_describe described).1, ?_⟩
    rw [declared]
    exact List.mem_map.mpr ⟨needed, listed, resolved⟩

/-- The directory of a module is the path without the last name. -/
theorem directoryOf_rooted {front : List (List Char)} {last : List Char}
    (made : ∀ piece ∈ front ++ [last], Path.IsPiece piece) :
    directoryOf (Path.rooted (front ++ [last])) = Path.rooted front := by
  unfold directoryOf
  rw [Path.parent?_rooted made]
  exact if_neg (by simp [Path.rooted])

section Resolving

variable {moduleDirectory : Path} {embedded : List Path}

/-- A name with a slash is taken from the module's directory on, as it is written. -/
theorem resolve_of_slash (slash : '/' ∈ needed) :
    resolve tree search moduleDirectory needed embedded = moduleDirectory.join ⟨needed⟩ := by
  unfold resolve
  rw [if_pos (by simpa using slash)]

/-- A name without a slash is looked for in the directories, and the first file is taken by its canonical path. -/
theorem resolve_of_found (slashless : '/' ∉ needed) {found : Path}
    (hit : (candidates search moduleDirectory needed embedded).find? tree.isFile = some found) :
    resolve tree search moduleDirectory needed embedded = (tree.canonical found).toOption.getD found := by
  unfold resolve
  rw [if_neg (by simpa using slashless), hit]

/-- A name without a slash that is nowhere leads to no file, for the path that is reported has been tried first. -/
theorem isFile_resolve_of_lost (slashless : '/' ∉ needed)
    (lost : (candidates search moduleDirectory needed embedded).find? tree.isFile = none) :
    tree.isFile (resolve tree search moduleDirectory needed embedded) = false := by
  -- The directory of the module is searched first.
  have first : moduleDirectory.join ⟨needed⟩ ∈ candidates search moduleDirectory needed embedded := by
    simp [candidates, searchOrder]
  have tried : ¬ tree.isFile (moduleDirectory.join ⟨needed⟩) = true := List.find?_eq_none.mp lost _ first
  unfold resolve
  rw [if_neg (by simpa using slashless), lost]
  exact Bool.not_eq_true _ ▸ tried

/-- A name without a slash leads to a file just if it stands in one of the directories. -/
theorem isFile_resolve (formed : tree.WellFormed) (slashless : '/' ∉ needed) :
    tree.isFile (resolve tree search moduleDirectory needed embedded) = true ↔
      ∃ candidate ∈ candidates search moduleDirectory needed embedded, tree.isFile candidate = true := by
  cases hit : (candidates search moduleDirectory needed embedded).find? tree.isFile with
  | none =>
    rw [isFile_resolve_of_lost slashless hit]
    simpa using List.find?_eq_none.mp hit
  | some found =>
    have file : tree.isFile found = true := List.find?_some hit
    -- Making the path canonical leads to the same file, or leaves it as it is.
    have same : tree.isFile ((tree.canonical found).toOption.getD found) = true := by
      cases canonical : tree.canonical found with
      | error error => exact file
      | ok whole => exact (formed.isFile_canonical canonical).trans file
    rw [resolve_of_found slashless hit]
    exact iff_of_true same ⟨found, List.mem_of_find?_eq_some hit, file⟩

/-- What is found by a name without a slash is found by its canonical path, if it has one. -/
theorem canonical_resolve (formed : tree.WellFormed) (slashless : '/' ∉ needed) {whole : Path}
    (file : tree.isFile (resolve tree search moduleDirectory needed embedded) = true)
    (canonical : tree.canonical (resolve tree search moduleDirectory needed embedded) = .ok whole) :
    resolve tree search moduleDirectory needed embedded = whole := by
  cases hit : (candidates search moduleDirectory needed embedded).find? tree.isFile with
  | none => cases (isFile_resolve_of_lost slashless hit).symm.trans file
  | some found =>
    rw [resolve_of_found slashless hit] at canonical ⊢
    cases given : tree.canonical found with
    | error error =>
      -- A path that has no canonical one stays as it is, and has none afterwards.
      rw [given] at canonical
      cases given.symm.trans canonical
    | ok whole' =>
      rw [given] at canonical
      -- A canonical path is its own canonical path.
      have twice : tree.canonical whole' = .ok whole' := formed.canonical_canonical given
      exact Except.ok.inj (twice.symm.trans canonical)

end Resolving

/-- A number below 256 in two bytes. -/
def shortBytes (number : Nat) : List UInt8 := [UInt8.ofNat number, 0]

/-- A number below 256 in four bytes. -/
def wordBytes (number : Nat) : List UInt8 := [UInt8.ofNat number, 0, 0, 0]

/-- The header of a section. -/
def sectionBytes (kind offset size link : Nat) : List UInt8 :=
  [0, kind, 0, 0, offset, size, link, 0, 1, 0].flatMap wordBytes

/-- A small module that needs one library, which has a short name. -/
def smallModule (needed : List Char) : ByteArray :=
  let mark : List UInt8 := [0x7F, 0x45, 0x4C, 0x46, 1, 1, 1] ++ List.replicate 9 0
  let header := mark ++ [3, 3].flatMap shortBytes ++ [1, 0, 0, 52, 0].flatMap wordBytes ++
    [52, 0, 0, 40, 3, 2].flatMap shortBytes
  -- After the section without a kind there are the dynamic one and that of its texts.
  let sections := sectionBytes 0 0 0 0 ++ sectionBytes 6 172 8 2 ++ sectionBytes 3 180 (needed.length + 1) 0
  let name : List UInt8 := needed.map fun c => UInt8.ofNat c.toNat
  ⟨(header ++ sections ++ [1, 0].flatMap wordBytes ++ name ++ [0]).toArray⟩

example : (parse (smallModule ['b', '.', 's', 'o'])).toOption = some ⟨none, [['b', '.', 's', 'o']], none, none⟩ := by
  decide +kernel

end Elf

end ModuleScope
