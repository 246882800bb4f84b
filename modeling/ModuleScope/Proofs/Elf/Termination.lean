import Mathlib.Data.Set.Finite.List
import ModuleScope.Proofs.Discovery.Progress
import ModuleScope.Proofs.Discovery.Verdict
import ModuleScope.Proofs.Elf.References

/-! Runs over a file tree end: long paths cannot be followed, so that there are only finitely many modules. Whether a
run completes depends on the names with a slash, which may spell one file in more and more ways. -/

namespace ModuleScope

/-- There are finitely many characters. -/
instance finite_char : Finite Char := by
  have bounded : ∀ c : Char, c.toNat < 0x110000 := by
    intro c
    rcases c.valid with low | ⟨_, high⟩
    · exact Nat.lt_trans low (by decide)
    · exact high
  refine Finite.of_injective (fun c : Char => (⟨c.toNat, bounded c⟩ : Fin 0x110000)) ?_
  intro c d same
  exact Char.toNat_inj.mp (Fin.mk.inj same)

namespace FileTree

/-- A text has no more characters than bytes. -/
theorem length_le_byteSize (chars : List Char) : chars.length ≤ byteSize chars := by
  induction chars with
  | nil => exact Nat.zero_le _
  | cons c rest ih =>
    -- Every character takes at least one byte.
    have least : 0 < c.utf8Size := c.utf8Size_pos
    show rest.length + 1 ≤ c.utf8Size + byteSize rest
    omega

/-- There are finitely many paths that are short enough to be followed. -/
theorem finite_followed : {path : Path | byteSize path.chars ≤ maxPath}.Finite := by
  have short : {chars : List Char | chars.length ≤ maxPath}.Finite := List.finite_length_le Char maxPath
  refine (short.image Path.mk).subset ?_
  intro path followed
  exact ⟨path.chars, Nat.le_trans (length_le_byteSize path.chars) followed, rfl⟩

variable {tree : FileTree} {path : Path}

/-- A path that leads somewhere is short enough. -/
theorem followed_of_locate {place : Location} (located : tree.locate path = .ok place) :
    byteSize path.chars ≤ maxPath := by
  unfold locate at located
  split at located
  · cases located
  split at located
  · cases located
  · -- The length is checked before anything is looked up.
    rename_i short
    exact Nat.not_lt.mp short

/-- The paths of all files in the tree, from the root on. -/
def filePaths (tree : FileTree) : List Path :=
  tree.entries.filterMap fun entry =>
    match entry.2 with
    | .file _ _ _ | .sealed _ _ => some (pathOf entry.1)
    | _ => none

/-- A path that leads to a file leads to one of the entries. -/
theorem exists_entry_of_isFile (file : tree.isFile path = true) :
    ∃ place entry, tree.locate path = .ok place ∧ (place, entry) ∈ tree.entries ∧ tree.open? path = .ok entry ∧
      pathOf place ∈ tree.filePaths := by
  -- A file is opened as one with bytes or as a sealed one.
  have opened : ∃ entry, tree.open? path = .ok entry ∧
      ((∃ content seconds nanoseconds, entry = .file content seconds nanoseconds) ∨
        ∃ seconds nanoseconds, entry = .sealed seconds nanoseconds) := by
    rcases Elf.isFile_iff.mp file with ⟨content, seconds, nanoseconds, opened⟩ | ⟨seconds, nanoseconds, opened⟩
    · exact ⟨_, opened, Or.inl ⟨content, seconds, nanoseconds, rfl⟩⟩
    · exact ⟨_, opened, Or.inr ⟨seconds, nanoseconds, rfl⟩⟩
  obtain ⟨entry, opened, kind⟩ := opened
  obtain ⟨place, located, found⟩ := Elf.entry_of_open? opened
  -- The root is a directory.
  have below : place ≠ [] := by
    rintro rfl
    cases found
    rcases kind with ⟨_, _, _, same⟩ | ⟨_, _, same⟩ <;> cases same
  have member : (place, entry) ∈ tree.entries := mem_entries below found
  refine ⟨place, entry, located, member, opened, List.mem_filterMap.mpr ⟨_, member, ?_⟩⟩
  rcases kind with ⟨content, seconds, nanoseconds, rfl⟩ | ⟨seconds, nanoseconds, rfl⟩ <;> rfl

end FileTree

namespace Elf

variable {tree : FileTree} {search : SearchPaths} {seed path : Path} {spellings : List Path}

/-- Whatever the tree and the seed are, the seed leads to finitely many paths. -/
theorem finite_reaches (tree : FileTree) (search : SearchPaths) (seed : Path) :
    {path | (ModuleSources.ofTree tree search).references.Reaches seed path}.Finite := by
  -- A path that refers to others leads to a file, and therefore it is a short one.
  have listed : (⋃ referrer ∈ {path : Path | FileTree.byteSize path.chars ≤ FileTree.maxPath},
      {path | path ∈ (needsAt tree search referrer).map Prod.snd}).Finite :=
    FileTree.finite_followed.biUnion fun referrer _ => List.finite_toSet _
  refine (listed.insert seed).subset ?_
  intro path reached
  rcases Relation.ReflTransGen.cases_tail reached with seeded | ⟨referrer, _, refers⟩
  · exact Or.inl seeded
  · obtain ⟨needed, member⟩ := refersTo_iff.mp refers
    obtain ⟨info, linked, _, _⟩ := mem_needsAt.mp member
    obtain ⟨place, _, located, _⟩ := FileTree.exists_entry_of_isFile (isFile_of_linkage? linked)
    refine Or.inr (Set.mem_biUnion (FileTree.followed_of_locate located) ?_)
    exact List.mem_map.mpr ⟨_, member, rfl⟩

/-- All files are modules, everything needed is there, and names with a slash spell no more than certain paths. -/
structure Grounded (tree : FileTree) (search : SearchPaths) (seed : Path) (spellings : List Path) : Prop where
  /-- The tree is one that a system can have. -/
  formed : tree.WellFormed
  /-- Every file is a module. -/
  modules : ∀ entry ∈ tree.entries, isSound entry.2 = true
  /-- Every file can be reached from the root. -/
  short : ∀ file ∈ tree.filePaths, FileTree.byteSize file.chars ≤ FileTree.maxPath
  /-- The seed is a file. -/
  seeded : tree.isFile seed = true
  /-- Everything that is needed is a file. -/
  met : ∀ file ∈ seed :: spellings ++ tree.filePaths, ∀ need ∈ needsAt tree search file, tree.isFile need.2 = true
  /-- A name with a slash leads to a path that is accounted for. -/
  spelt : ∀ file ∈ seed :: spellings ++ tree.filePaths, ∀ need ∈ needsAt tree search file, '/' ∈ need.1 →
    need.2 ∈ seed :: spellings ++ tree.filePaths

instance (tree : FileTree) (search : SearchPaths) (seed : Path) (spellings : List Path) :
    Decidable (Grounded tree search seed spellings) :=
  decidable_of_iff (tree.WellFormed ∧ (∀ entry ∈ tree.entries, isSound entry.2 = true) ∧
    (∀ file ∈ tree.filePaths, FileTree.byteSize file.chars ≤ FileTree.maxPath) ∧ tree.isFile seed = true ∧
    (∀ file ∈ seed :: spellings ++ tree.filePaths, ∀ need ∈ needsAt tree search file, tree.isFile need.2 = true) ∧
    ∀ file ∈ seed :: spellings ++ tree.filePaths, ∀ need ∈ needsAt tree search file, '/' ∈ need.1 →
      need.2 ∈ seed :: spellings ++ tree.filePaths)
    ⟨fun ⟨formed, modules, short, seeded, met, spelt⟩ => ⟨formed, modules, short, seeded, met, spelt⟩,
      fun ⟨formed, modules, short, seeded, met, spelt⟩ => ⟨formed, modules, short, seeded, met, spelt⟩⟩

/-- What is found for a name without a slash is one of the files of the tree. -/
theorem Grounded.mem_filePaths (grounded : Grounded tree search seed spellings) {needed : List Char} {reference : Path}
    (member : (needed, reference) ∈ needsAt tree search path) (slashless : '/' ∉ needed)
    (file : tree.isFile reference = true) : reference ∈ tree.filePaths := by
  obtain ⟨info, _, _, resolved⟩ := mem_needsAt.mp member
  obtain ⟨place, entry, located, _, _, listed⟩ := FileTree.exists_entry_of_isFile file
  -- The place of the file has a path that is short enough, and that is the canonical one.
  have canonical : tree.canonical reference = .ok (FileTree.pathOf place) :=
    FileTree.canonical_eq_ok.mpr ⟨place, located, rfl, grounded.short _ listed⟩
  subst resolved
  rw [canonical_resolve grounded.formed slashless file canonical]
  exact listed

/-- The seed leads only to paths that are accounted for, and all of them are files. -/
theorem Grounded.reaches (grounded : Grounded tree search seed spellings)
    (reached : (ModuleSources.ofTree tree search).references.Reaches seed path) :
    path ∈ seed :: spellings ++ tree.filePaths ∧ tree.isFile path = true := by
  induction reached with
  | refl => exact ⟨List.mem_cons_self, grounded.seeded⟩
  | tail _ refers ih =>
    obtain ⟨needed, member⟩ := refersTo_iff.mp refers
    have file := grounded.met _ ih.1 _ member
    -- Names with slashes lead to the spellings, all others to places in the tree.
    by_cases slash : '/' ∈ needed
    · exact ⟨grounded.spelt _ ih.1 _ member slash, file⟩
    · exact ⟨List.mem_append_right _ (grounded.mem_filePaths member slash file), file⟩

/-- A file of the tree can be read, hashed and dated. -/
theorem Grounded.described (grounded : Grounded tree search seed spellings) (file : tree.isFile path = true) :
    ∃ module, (ModuleSources.ofTree tree search).describe path = .ok module := by
  obtain ⟨place, entry, _, member, opened, _⟩ := FileTree.exists_entry_of_isFile file
  have sound : isSound entry = true := grounded.modules _ member
  -- A sound file is one whose bytes are those of a module.
  have linked : ∃ info, linkage? tree path = some info := by
    rcases isFile_iff.mp file with ⟨content, seconds, nanoseconds, found⟩ | ⟨seconds, nanoseconds, found⟩
    · cases opened.symm.trans found
      cases parsed : parse content with
      | error error => simp [isSound, parsed, Except.toOption] at sound
      | ok info =>
        have held : contentOf tree path = .ok content := by
          simp [contentOf, opened, filled_of_parse parsed]
        exact ⟨info, linkage?_eq_some.mpr ⟨content, held, parsed⟩⟩
    · cases opened.symm.trans found
      cases sound
  obtain ⟨info, linked⟩ := linked
  obtain ⟨module, described, _⟩ := @describe_of_linkage? tree search path info linked
  exact ⟨module, described⟩

end Elf

namespace History

/-- The token is one of those whose signals are there, and neither it nor its parent is ever cancelled. -/
structure Uncancelled (signals : Signals) (token : CancelToken) (moves : List Move) : Prop where
  /-- The token is not cancelled at first. -/
  live : signals.isCancelled token = false
  /-- The token has a signal. -/
  own : token.own < signals.raised.length
  /-- The parent has a signal. -/
  above : ∀ parent, token.parent = some parent → parent < signals.raised.length
  /-- No move cancels either. -/
  calm : ∀ other, .cancel other ∈ moves → other.own ≠ token.own ∧ token.parent ≠ some other.own

variable {sources : ModuleSources} {signals : Signals} {token : CancelToken} {moves : List Move} {history : History}

/-- Moves that cancel nothing leave the token as it is. -/
theorem Uncancelled.onward (uncancelled : Uncancelled signals token moves) {more : List Move}
    (own : ∀ other, .cancel other ∉ more) : Uncancelled signals token (moves ++ more) where
  live := uncancelled.live
  own := uncancelled.own
  above := uncancelled.above
  calm other member := by
    rcases List.mem_append.mp member with early | late
    · exact uncancelled.calm other early
    · exact absurd late (own other)

/-- A run over a tree in which everything is in its place completes if it ends. -/
theorem completed_of_grounded {tree : FileTree} {search : Elf.SearchPaths} {seed : Path} {spellings : List Path}
    (grounded : Elf.Grounded tree search seed spellings) {limit : Nat} {last : History}
    (uncancelled : Uncancelled signals token moves)
    (played : (start signals token seed limit).play? (.ofTree tree search) moves = some last)
    (ended : last.run.state.hasEnded = true) : last.run.state = .completed := by
  obtain ⟨sound, about⟩ := sound_of_play? played
  have seeded : last.run.seed = seed := about.seed
  have live : last.signals.isCancelled last.run.token = false :=
    live_of_calm uncancelled.live uncancelled.own uncancelled.above uncancelled.calm played
  rcases sound.completed_or_faulted live ended with completed | ⟨_, path, error, reached, failed⟩
  · exact completed
  · -- There is no path to fault on.
    obtain ⟨module, described⟩ := grounded.described (grounded.reaches (seeded ▸ reached)).2
    cases failed.symm.trans described

/-- Over every tree a run reads only so many paths, takes only so many steps that are more than looks, and can always go
on to its end. If all files are modules, everything needed is there and the names with a slash spell no more than
certain paths, then an uncancelled run reads no more than those and the files, and its end is to complete. -/
theorem ends_over_tree (tree : FileTree) (search : Elf.SearchPaths) (seed : Path) :
    (∃ paths most, ∀ signals token limit moves last,
      (start signals token seed limit).play? (.ofTree tree search) moves = some last →
      last.run.reads.length ≤ paths ∧
      (start signals token seed limit).labour (.ofTree tree search) moves ≤ (3 * most + 16) * paths + 11 ∧
      ∃ final, GoesOn (.ofTree tree search) last final ∧ final.run.state.hasEnded = true) ∧
    ∀ spellings, Elf.Grounded tree search seed spellings → ∀ signals token limit moves last,
      Uncancelled signals token moves →
      (start signals token seed limit).play? (.ofTree tree search) moves = some last →
      last.run.reads.length ≤ (seed :: spellings ++ tree.filePaths).length ∧
      (last.run.state.hasEnded = true → last.run.state = .completed) ∧
      ∃ final, GoesOn (.ofTree tree search) last final ∧ final.run.state = .completed := by
  constructor
  · -- The seed leads to finitely many paths, and these bound the reads and the work.
    obtain ⟨paths, most, limited⟩ := ModuleSources.limited_of_finite (Elf.finite_reaches tree search seed)
    exact ⟨paths.length, most, fun _ _ _ _ _ played => ends_within limited played⟩
  · intro spellings grounded signals token limit moves last uncancelled played
    obtain ⟨most, limited⟩ := ModuleSources.limited_of_listed fun path reached =>
      (@Elf.Grounded.reaches tree search seed path spellings grounded reached).1
    -- Where everything is in its place the paths are those that are accounted for.
    obtain ⟨few, _, final, goesOn, ended⟩ := ends_within limited played
    refine ⟨few, completed_of_grounded grounded uncancelled played, final, goesOn, ?_⟩
    -- The moves up to the end are those before and some that cancel nothing.
    obtain ⟨more, own, onward⟩ := goesOn
    have whole : (start signals token seed limit).play? (.ofTree tree search) (moves ++ more) = some final := by
      rw [play?_append, played]
      exact onward
    exact completed_of_grounded grounded (uncancelled.onward own) whole ended

/-- A directory with two modules that need each other, one of them by a name with a slash. -/
def dottedPair : FileTree where
  entries := [([['d']], .directory), ([['d'], ['a']], .file (Elf.smallModule ['b']) 0 0),
    ([['d'], ['b']], .file (Elf.smallModule ['.', '/', 'a']) 0 0)]
  current := []

/-- A run completes although a module needs its own by a name with a slash, for that spells one path more only. -/
theorem dotted_pair_completes :
    Elf.Grounded dottedPair {} ⟨"/d/a".toList⟩ [⟨"/d/./a".toList⟩] ∧
    ∃ final, GoesOn (.ofTree dottedPair {}) (start ⟨[false]⟩ ⟨0, none⟩ ⟨"/d/a".toList⟩ 1) final ∧
      final.run.state = .completed := by
  have grounded : Elf.Grounded dottedPair {} ⟨"/d/a".toList⟩ [⟨"/d/./a".toList⟩] := by decide +kernel
  have uncancelled : Uncancelled ⟨[false]⟩ ⟨0, none⟩ [] := ⟨rfl, by decide, by simp, by simp⟩
  have ends := (ends_over_tree dottedPair {} ⟨"/d/a".toList⟩).2 _ grounded
  exact ⟨grounded, (ends ⟨[false]⟩ ⟨0, none⟩ 1 [] _ uncancelled rfl).2.2⟩

/-- A directory with one module, which needs itself by a name that leads out of the directory and back. -/
def windingTree : FileTree where
  entries := [([['d']], .directory), ([['d'], ['a']], .file (Elf.smallModule "../d/a".toList) 0 0)]
  current := []

/-- A path on which the directory may be left and entered again and again. -/
def Winding (path : Path) : Prop :=
  ∃ front, front ≠ [] ∧ (∀ piece ∈ front, Path.IsPiece piece) ∧ path = Path.rooted (front ++ [['a']])

/-- There is one module only, so that every path to a module leads to what it needs. -/
theorem needed_windingTree {path : Path} {info : Elf.Linkage} (linked : Elf.linkage? windingTree path = some info) :
    info.needed = ["../d/a".toList] := by
  obtain ⟨content, held, parsed⟩ := Elf.linkage?_eq_some.mp linked
  obtain ⟨seconds, nanoseconds, opened⟩ := Elf.open?_of_contentOf held
  obtain ⟨place, _, _, among, opened', _⟩ := FileTree.exists_entry_of_isFile (Elf.isFile_of_linkage? linked)
  cases opened.symm.trans opened'
  -- The tree has one file, and it is this module.
  have only : content = Elf.smallModule "../d/a".toList := by
    simp [windingTree] at among
    exact among.2.1
  have read : (Elf.parse (Elf.smallModule "../d/a".toList)).toOption = some ⟨none, ["../d/a".toList], none, none⟩ := by
    decide +kernel
  rw [← only, parsed] at read
  cases read
  rfl

/-- Every path to a module refers to the module next to it, through the directory above. -/
theorem needsAt_windingTree {path reference : Path} {needed : List Char}
    (member : (needed, reference) ∈ Elf.needsAt windingTree {} path) :
    reference = (Elf.directoryOf path).join ⟨"../d/a".toList⟩ := by
  obtain ⟨info, linked, listed, resolved⟩ := Elf.mem_needsAt.mp member
  rw [needed_windingTree linked, List.mem_singleton] at listed
  subst listed
  rw [← resolved, Elf.resolve_of_slash (by decide)]

/-- What is needed next to a winding path is a winding path with two more parts. -/
theorem Winding.step {path reference : Path} (winding : Winding path)
    (refers : (ModuleSources.ofTree windingTree {}).references.RefersTo path reference) :
    Winding reference ∧ reference.parts.length = path.parts.length + 2 := by
  obtain ⟨needed, member⟩ := Elf.refersTo_iff.mp refers
  obtain ⟨front, some, made, rfl⟩ := winding
  have onward : ∀ piece ∈ [['.', '.'], ['d']], Path.IsPiece piece := by decide
  have file : ∀ piece ∈ [['a']], Path.IsPiece piece := by decide
  have further : ∀ piece ∈ front ++ [['.', '.'], ['d']], Path.IsPiece piece :=
    List.forall_mem_append.mpr ⟨made, onward⟩
  have before : ∀ piece ∈ front ++ [['a']], Path.IsPiece piece := List.forall_mem_append.mpr ⟨made, file⟩
  have after : ∀ piece ∈ front ++ [['.', '.'], ['d']] ++ [['a']], Path.IsPiece piece :=
    List.forall_mem_append.mpr ⟨further, file⟩
  -- The name is joined to the directory of the module as it stands.
  have reached : reference = Path.rooted (front ++ [['.', '.'], ['d']] ++ [['a']]) := by
    have name : "../d/a".toList = Path.joinPieces [['.', '.'], ['d'], ['a']] := by decide
    rw [needsAt_windingTree member, Elf.directoryOf_rooted before, name,
      Path.join_rooted some made (by simp) (by decide), List.append_assoc]
    rfl
  subst reached
  refine ⟨⟨_, by simp, further, rfl⟩, ?_⟩
  rw [Path.parts_rooted (by simp) after, Path.parts_rooted (by simp) before]
  simp only [List.filterMap_append, List.length_cons, List.length_append]
  have two : ([['.', '.'], ['d']].filterMap Path.partOf?).length = 2 := rfl
  omega

/-- The seed leads to winding paths only. -/
theorem winding_of_reaches {path : Path}
    (reached : (ModuleSources.ofTree windingTree {}).references.Reaches ⟨"/d/a".toList⟩ path) : Winding path := by
  induction reached with
  | refl => exact ⟨[['d']], by simp, by decide, by decide⟩
  | tail _ refers ih => exact (ih.step refers).1

/-- A run that completed would have found modules with more and more parts in their paths. -/
theorem winding_grows (modules : List FoundModule)
    (known : ∀ module ∈ modules,
      (ModuleSources.ofTree windingTree {}).describe module.path = .ok module ∧ Winding module.path)
    (exhausted : Exhausted ⟨"/d/a".toList⟩ modules) (count : Nat) :
    ∃ module ∈ modules, count ≤ module.path.parts.length := by
  induction count with
  | zero =>
    -- The seed itself has been found.
    obtain ⟨path, member, _⟩ := exhausted _ (Or.inl rfl)
    obtain ⟨module, found, _⟩ := List.mem_map.mp member
    exact ⟨module, found, Nat.zero_le _⟩
  | succ count ih =>
    obtain ⟨module, found, long⟩ := ih
    obtain ⟨described, winding⟩ := known module found
    -- The module needs one that is further away.
    have refers : ∃ reference, reference ∈ module.declared.references := by
      obtain ⟨info, linked, declared⟩ := Elf.linkage?_of_describe described
      simp [declared, Elf.imageOf, needed_windingTree linked]
    obtain ⟨reference, listed⟩ := refers
    have answered := (ModuleSources.references_of_describe described).1
    obtain ⟨_, further⟩ := winding.step ⟨_, answered, listed⟩
    obtain ⟨path, member, same⟩ := exhausted reference (Or.inr ⟨module, found, listed⟩)
    obtain ⟨other, found', rfl⟩ := List.mem_map.mp member
    have parts : reference.parts = other.path.parts := same
    exact ⟨other, found', by rw [← parts]; omega⟩

/-- No run over the tree completes: those that end without being cancelled have faulted. -/
theorem faulted_of_winding {signals : Signals} {token : CancelToken} {limit : Nat} {moves : List Move} {last : History}
    (uncancelled : Uncancelled signals token moves)
    (played : (start signals token ⟨"/d/a".toList⟩ limit).play? (.ofTree windingTree {}) moves = some last)
    (ended : last.run.state.hasEnded = true) : last.run.state = .faulted := by
  obtain ⟨sound, about⟩ := sound_of_play? played
  have seeded : last.run.seed = ⟨"/d/a".toList⟩ := about.seed
  have live : last.signals.isCancelled last.run.token = false :=
    live_of_calm uncancelled.live uncancelled.own uncancelled.above uncancelled.calm played
  rcases sound.completed_or_faulted live ended with completed | ⟨faulted, _⟩
  · exfalso
    have known : ∀ module ∈ answeredModules last.answers,
        (ModuleSources.ofTree windingTree {}).describe module.path = .ok module ∧ Winding module.path := by
      intro module member
      obtain ⟨described, reached⟩ := sound.member member
      exact ⟨described, winding_of_reaches (seeded ▸ reached)⟩
    have exhausted : Exhausted ⟨"/d/a".toList⟩ (answeredModules last.answers) := seeded ▸ sound.exhausted completed
    -- Among finitely many modules there is one whose path has the most parts.
    obtain ⟨most, bounded⟩ := ((List.finite_toSet (answeredModules last.answers)).image fun module =>
      module.path.parts.length).bddAbove
    obtain ⟨module, member, long⟩ := winding_grows _ known exhausted (most + 1)
    have short : module.path.parts.length ≤ most := bounded ⟨module, member, rfl⟩
    omega
  · exact faulted

/-- A tree with a single module that needs itself through the directory above is in order, but every run from there that
ends without being cancelled faults, and there is one that does. -/
theorem winding_run_faults :
    windingTree.WellFormed ∧ (∀ entry ∈ windingTree.entries, Elf.isSound entry.2 = true) ∧
    windingTree.isFile ⟨"/d/a".toList⟩ = true ∧
    (∀ file ∈ windingTree.filePaths, ∀ need ∈ Elf.needsAt windingTree {} file, windingTree.isFile need.2 = true) ∧
    (∀ signals token limit moves last, Uncancelled signals token moves →
      (start signals token ⟨"/d/a".toList⟩ limit).play? (.ofTree windingTree {}) moves = some last →
      last.run.state.hasEnded = true → last.run.state = .faulted) ∧
    ∃ moves last, Uncancelled ⟨[false]⟩ ⟨0, none⟩ moves ∧
      (start ⟨[false]⟩ ⟨0, none⟩ ⟨"/d/a".toList⟩ 1).play? (.ofTree windingTree {}) moves = some last ∧
      last.run.state = .faulted := by
  refine ⟨by decide +kernel, by decide +kernel, by decide +kernel, by decide +kernel, ?_, ?_⟩
  · intro _ _ _ _ _ uncancelled played ended
    exact faulted_of_winding uncancelled played ended
  · obtain ⟨paths, most, limited⟩ :=
      ModuleSources.limited_of_finite (Elf.finite_reaches windingTree {} ⟨"/d/a".toList⟩)
    have first : Uncancelled ⟨[false]⟩ ⟨0, none⟩ [] := ⟨rfl, by decide, by simp, by simp⟩
    obtain ⟨_, _, last, ⟨moves, own, played⟩, ended⟩ :=
      @ends_within _ _ paths most ⟨[false]⟩ ⟨0, none⟩ ⟨"/d/a".toList⟩ 1 [] limited rfl
    have uncancelled : Uncancelled ⟨[false]⟩ ⟨0, none⟩ moves := first.onward own
    exact ⟨moves, last, uncancelled, played, faulted_of_winding uncancelled played ended⟩

end History

end ModuleScope
