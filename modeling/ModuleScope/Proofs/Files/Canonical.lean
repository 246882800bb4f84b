import Mathlib.Data.List.Induction
import ModuleScope.Files.Tree
import ModuleScope.Proofs.Path.Pieces

/-! The canonical path of a place leads to that place, and to no other. -/

namespace ModuleScope

namespace FileTree

/-- Something in a directory can have the name. -/
structure IsName (name : List Char) : Prop where
  /-- It is not empty. -/
  filled : name ≠ []
  /-- It is a single piece of a path. -/
  slashless : '/' ∉ name
  /-- It is not that of the directory itself. -/
  here : name ≠ ['.']
  /-- It is not that of the directory above. -/
  up : name ≠ ['.', '.']
  /-- It does not hold the character that ends a text for the system. -/
  plain : '\x00' ∉ name
  /-- It is not too long. -/
  short : byteSize name ≤ maxName

instance (name : List Char) : Decidable (IsName name) :=
  decidable_of_iff (name ≠ [] ∧ '/' ∉ name ∧ name ≠ ['.'] ∧ name ≠ ['.', '.'] ∧ '\x00' ∉ name ∧
    byteSize name ≤ maxName)
    ⟨fun ⟨filled, slashless, here, up, plain, short⟩ => ⟨filled, slashless, here, up, plain, short⟩,
      fun ⟨filled, slashless, here, up, plain, short⟩ => ⟨filled, slashless, here, up, plain, short⟩⟩

/-- There is a directory at a place. -/
def isDirectoryAt (tree : FileTree) (location : Location) : Bool :=
  match tree.entry? location with
  | some .directory => true
  | _ => false

/-- The tree is one that a system can have: everything in it has a name and stands in a directory. -/
structure WellFormed (tree : FileTree) : Prop where
  /-- Places are reached by names. -/
  named : ∀ entry ∈ tree.entries, ∀ name ∈ entry.1, IsName name
  /-- Everything stands in a directory. -/
  housed : ∀ entry ∈ tree.entries, tree.isDirectoryAt entry.1.dropLast = true
  /-- Relative paths start in a directory. -/
  placed : tree.isDirectoryAt tree.current = true

instance (tree : FileTree) : Decidable tree.WellFormed :=
  decidable_of_iff ((∀ entry ∈ tree.entries, ∀ name ∈ entry.1, IsName name) ∧
    (∀ entry ∈ tree.entries, tree.isDirectoryAt entry.1.dropLast = true) ∧ tree.isDirectoryAt tree.current = true)
    ⟨fun ⟨named, housed, placed⟩ => ⟨named, housed, placed⟩, fun ⟨named, housed, placed⟩ => ⟨named, housed, placed⟩⟩

/-- Something stands at a place, and it is no link. -/
def Stands (tree : FileTree) (location : Location) : Prop :=
  ∃ entry, tree.entry? location = some entry ∧ ∀ target, entry ≠ .link target

variable {tree : FileTree} {location : Location}

/-- A place with a directory is one where a directory is found. -/
theorem isDirectoryAt_iff : tree.isDirectoryAt location = true ↔ tree.entry? location = some .directory := by
  unfold isDirectoryAt
  split <;> simp_all

/-- What stands at a place other than the root is among the entries. -/
theorem mem_entries {entry : FileEntry} (below : location ≠ []) (found : tree.entry? location = some entry) :
    (location, entry) ∈ tree.entries := by
  unfold entry? at found
  rw [if_neg below] at found
  -- The first entry of that place is the one that is found.
  obtain ⟨front, back, split, _⟩ := List.lookup_eq_some_iff.mp found
  rw [split]
  exact List.mem_append_right front List.mem_cons_self

/-- A directory is no link. -/
theorem stands_of_directory (directory : tree.entry? location = some .directory) : tree.Stands location :=
  ⟨.directory, directory, by simp⟩

/-- Nothing above a place where something stands is anything but a directory. -/
theorem WellFormed.above (formed : tree.WellFormed) {rest : List (List Char)} {entry : FileEntry}
    (found : tree.entry? (location ++ rest) = some entry) (below : rest ≠ []) :
    tree.entry? location = some .directory := by
  induction rest using List.reverseRecOn generalizing entry with
  | nil => exact absurd rfl below
  | append_singleton rest name ih =>
    have member := mem_entries (by simp) found
    -- What stands below the last name is housed in the directory above it.
    have parent := formed.housed _ member
    rw [← List.append_assoc] at parent
    simp only [List.dropLast_concat, isDirectoryAt_iff] at parent
    -- If there are more names in between, the directory there is again in a directory.
    by_cases last : rest = []
    · rw [last, List.append_nil] at parent
      exact parent
    · exact ih parent last

/-- The names that lead to a place where something stands are names. -/
theorem WellFormed.isName (formed : tree.WellFormed) {entry : FileEntry} {name : List Char}
    (found : tree.entry? location = some entry) (member : name ∈ location) : IsName name := by
  -- The root has no names, so the place is another one and has an entry.
  have below : location ≠ [] := by
    rintro rfl
    cases member
  exact formed.named _ (mem_entries below found) name member

/-- Names lead from a place to another one, if links are followed to such places. -/
theorem WellFormed.walkNames_stands (formed : tree.WellFormed)
    {follow : Location → List (List Char) → Except OsError Location}
    (follows : ∀ here names place, tree.Stands here → follow here names = .ok place → tree.Stands place)
    {here place : Location} {names : List (List Char)} (stands : tree.Stands here)
    (walked : tree.walkNames follow here names = .ok place) : tree.Stands place := by
  induction names generalizing here with
  | nil =>
    cases walked
    exact stands
  | cons name rest ih =>
    -- The cases are those of the walk: a dot, two dots, a name that is too long, then what stands there.
    unfold walkNames at walked
    split at walked
    · rename_i directory
      split at walked
      · exact ih stands walked
      split at walked
      · -- Going up from the root leads to the root.
        apply ih _ walked
        rcases List.eq_nil_or_concat here with rfl | ⟨above, last, rfl⟩
        · exact stands
        · rw [List.concat_eq_append] at directory ⊢
          rw [List.dropLast_concat]
          exact stands_of_directory (formed.above directory (by simp))
      split at walked
      · cases walked
      split at walked
      · cases walked
      · -- A link leads on from here or from the root.
        rename_i target _
        apply follows _ _ _ _ walked
        unfold startOf
        split
        · exact stands_of_directory rfl
        · exact stands
      · -- Anything but a link is where the walk goes on.
        rename_i entry other found
        exact ih ⟨entry, found, other⟩ walked
    · cases walked

/-- However many links are followed, a walk ends at a place where something stands. -/
theorem WellFormed.walk_stands (formed : tree.WellFormed) {links : Nat} {here place : Location}
    {names : List (List Char)} (stands : tree.Stands here) (walked : tree.walk links here names = .ok place) :
    tree.Stands place := by
  induction links generalizing here place names with
  | zero =>
    refine formed.walkNames_stands ?_ stands walked
    -- No link may be followed any more, so none is.
    intro _ _ _ _ failed
    cases failed
  | succ links ih =>
    refine formed.walkNames_stands ?_ stands walked
    intro _ _ _ stands walked
    exact ih stands walked

/-- Something stands at the place that a path leads to. -/
theorem WellFormed.locate_stands (formed : tree.WellFormed) {path : Path} {place : Location}
    (located : tree.locate path = .ok place) : tree.Stands place := by
  unfold locate at located
  split at located
  · cases located
  split at located
  · cases located
  split at located
  · cases located
  · -- The walk starts at the root or in the current directory.
    refine formed.walk_stands ?_ located
    unfold startOf
    split
    · exact stands_of_directory rfl
    · exact stands_of_directory (isDirectoryAt_iff.mp formed.placed)

/-- The names of a place lead there, and no link is met on the way. -/
theorem WellFormed.walkNames_straight (formed : tree.WellFormed)
    {follow : Location → List (List Char) → Except OsError Location} {names : List (List Char)}
    (stands : tree.Stands (location ++ names)) : tree.walkNames follow location names = .ok (location ++ names) := by
  induction names generalizing location with
  | nil => simp [walkNames]
  | cons name rest ih =>
    obtain ⟨entry, found, _⟩ := id stands
    have directory := formed.above found (by simp)
    have isName : IsName name := formed.isName found (by simp)
    have split : location ++ name :: rest = location ++ [name] ++ rest := by simp
    -- What stands at the next place is what is asked for, or a directory that leads there.
    have next : tree.Stands (location ++ [name]) := by
      by_cases last : rest = []
      · rw [split, last, List.append_nil] at stands
        exact stands
      · rw [split] at found
        exact stands_of_directory (formed.above found last)
    obtain ⟨entry', found', other⟩ := next
    have later := ih (split ▸ stands)
    -- A name of the place is not a dot and not too long, so the walk takes it as it is.
    unfold walkNames
    rw [directory, found', split]
    simp only [isName.here, isName.up, Nat.not_lt.mpr isName.short, if_false]
    cases entry' with
    -- No link stands on the way.
    | link target => exact absurd rfl (other target)
    | directory => exact later
    | file content seconds nanoseconds => exact later
    | «sealed» seconds nanoseconds => exact later

/-- The names to be followed for the path of a place are those of the place, or a dot at the root. -/
theorem namesOf_pathOf {location : Location} (named : ∀ name ∈ location, IsName name) :
    namesOf (pathOf location).chars = if location = [] then [['.']] else location := by
  rcases List.eq_nil_or_concat location with rfl | ⟨above, last, rfl⟩
  · rfl
  · rw [List.concat_eq_append] at named ⊢
    have isName : IsName last := named last (by simp)
    have some : above ++ [last] ≠ [] := by simp
    -- The slash in front gives one empty piece, which is filtered out again.
    have pieces : Path.pieces ('/' :: Path.joinPieces (above ++ [last])) = [] :: (above ++ [last]) := by
      have parts := Path.pieces_joinPieces some fun name member => (named name member).slashless
      simp [Path.pieces, parts]
    -- There is no slash at the end, so no dot is added.
    have ending : ('/' :: Path.joinPieces (above ++ [last])).getLast? ≠ Option.some '/' :=
      Path.getLast?_rooted_ne isName.filled isName.slashless
    have filled : ∀ name ∈ above ++ [last], decide (name ≠ []) = true := fun name member => by
      simpa using (named name member).filled
    rw [pathOf, namesOf, pieces, if_neg ending, List.append_nil, if_neg some, List.filter_cons_of_neg (by simp)]
    exact List.filter_eq_self.mpr filled

/-- The path of a place leads there, unless it is too long to be followed. -/
theorem WellFormed.locate_pathOf (formed : tree.WellFormed) (stands : tree.Stands location)
    (short : byteSize (pathOf location).chars ≤ maxPath) : tree.locate (pathOf location) = .ok location := by
  obtain ⟨entry, found, _⟩ := id stands
  have named : ∀ name ∈ location, IsName name := fun name member => formed.isName found member
  -- The path is made of slashes and names, and the system takes all of these characters.
  have plain : (pathOf location).chars.contains '\x00' = false := by
    rw [Bool.eq_false_iff, ne_eq, List.contains_iff_mem]
    intro member
    rcases List.mem_cons.mp member with same | inside
    · cases same
    · rcases Path.mem_joinPieces inside with same | ⟨name, among, held⟩
      · cases same
      · exact (named name among).plain held
  unfold locate
  rw [plain, namesOf_pathOf named, if_neg (by simp), if_neg (Nat.not_lt.mpr short)]
  simp only [pathOf, reduceCtorEq, if_false, startOf, List.head?_cons, if_true]
  -- The path of the root has the dot as its only name, and stays there.
  by_cases root : location = []
  · subst root
    rfl
  · rw [if_neg root]
    exact @WellFormed.walkNames_straight tree [] formed _ location stands

/-- A path has a canonical one if it leads to a place whose own path is not too long. -/
theorem canonical_eq_ok {path whole : Path} : tree.canonical path = .ok whole ↔
    ∃ place, tree.locate path = .ok place ∧ whole = pathOf place ∧ byteSize whole.chars ≤ maxPath := by
  unfold canonical
  cases tree.locate path with
  | error error => simp [Bind.bind, Except.bind]
  | ok place =>
    simp only [Bind.bind, Except.bind, Except.ok.injEq, exists_eq_left']
    -- A path that is too long is refused after the walk, not before it.
    by_cases long : maxPath < byteSize (pathOf place).chars
    · simp only [long, if_true, reduceCtorEq, false_iff, not_and]
      rintro rfl
      omega
    · simp only [long, if_false, Except.ok.injEq]
      constructor
      · rintro rfl
        exact ⟨rfl, Nat.not_lt.mp long⟩
      · intro same
        exact same.1.symm

/-- A canonical path leads where the path leads that it was made of. -/
theorem WellFormed.locate_canonical (formed : tree.WellFormed) {path whole : Path}
    (canonical : tree.canonical path = .ok whole) : tree.locate whole = tree.locate path := by
  obtain ⟨place, located, rfl, short⟩ := canonical_eq_ok.mp canonical
  -- Something stands where the path leads, so the path of that place leads back.
  have stands : tree.Stands place := formed.locate_stands located
  rw [formed.locate_pathOf stands short, located]

/-- A canonical path is its own canonical path. -/
theorem WellFormed.canonical_canonical (formed : tree.WellFormed) {path whole : Path}
    (canonical : tree.canonical path = .ok whole) : tree.canonical whole = .ok whole := by
  obtain ⟨place, located, same, short⟩ := canonical_eq_ok.mp canonical
  have located' : tree.locate whole = .ok place := (formed.locate_canonical canonical).trans located
  exact canonical_eq_ok.mpr ⟨place, located', same, short⟩

/-- A canonical path leads to a file if the path does that it was made of. -/
theorem WellFormed.isFile_canonical (formed : tree.WellFormed) {path whole : Path}
    (canonical : tree.canonical path = .ok whole) : tree.isFile whole = tree.isFile path := by
  have located := formed.locate_canonical canonical
  simp only [isFile, open?, located]

end FileTree

end ModuleScope
