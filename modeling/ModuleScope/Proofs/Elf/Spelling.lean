import ModuleScope.Proofs.Discovery.Completeness
import ModuleScope.Proofs.Elf.References

/-! How modules are spelt: what is found for a name in the directories is known by its canonical path, so that no file
is found there twice. -/

namespace ModuleScope

/-- Both paths have the same canonical path. -/
def FileTree.SameFile (tree : FileTree) (left right : Path) : Prop :=
  ∃ whole, tree.canonical left = .ok whole ∧ tree.canonical right = .ok whole

namespace Elf

/-- A module that the seed leads to needs the path by a name with a slash. -/
def NeededBySlash (tree : FileTree) (search : SearchPaths) (seed path : Path) : Prop :=
  ∃ referrer needed, (ModuleSources.ofTree tree search).references.Reaches seed referrer ∧
    (needed, path) ∈ needsAt tree search referrer ∧ '/' ∈ needed

/-- A path that is taken as it is written, and is not written as the canonical one. -/
def Misspelt (tree : FileTree) (search : SearchPaths) (seed path : Path) : Prop :=
  tree.canonical path ≠ .ok path ∧ (path = seed ∨ NeededBySlash tree search seed path)

variable {tree : FileTree} {search : SearchPaths} {seed path whole : Path}

/-- A file that the seed leads to has its canonical path, unless that was left to the seed or to a name. -/
theorem canonical_of_reaches (formed : tree.WellFormed)
    (reached : (ModuleSources.ofTree tree search).references.Reaches seed path) (file : tree.isFile path = true)
    (canonical : tree.canonical path = .ok whole) : path = whole ∨ Misspelt tree search seed path := by
  by_cases spelt : path = whole
  · exact Or.inl spelt
  -- Whatever else leads to the path has not made it canonical.
  have other : tree.canonical path ≠ .ok path := by
    intro same
    exact spelt (Except.ok.inj (same.symm.trans canonical))
  rcases Relation.ReflTransGen.cases_tail reached with seeded | ⟨referrer, before, refers⟩
  · exact Or.inr ⟨other, Or.inl seeded⟩
  · obtain ⟨needed, member⟩ := refersTo_iff.mp refers
    -- A name with a slash is taken as it is, any other one is looked up and made canonical.
    by_cases slash : '/' ∈ needed
    · exact Or.inr ⟨other, Or.inr ⟨referrer, needed, before, member, slash⟩⟩
    · obtain ⟨info, _, _, rfl⟩ := mem_needsAt.mp member
      exact absurd (canonical_resolve formed slash file canonical) spelt

/-- Different paths to one file are not both spelt as they should be. -/
theorem misspelt_of_sameFile (formed : tree.WellFormed) {left right : Path}
    (reached : (ModuleSources.ofTree tree search).references.Reaches seed left)
    (reached' : (ModuleSources.ofTree tree search).references.Reaches seed right)
    (file : tree.isFile left = true) (file' : tree.isFile right = true) (differ : left.Differs right)
    (same : tree.SameFile left right) : Misspelt tree search seed left ∨ Misspelt tree search seed right := by
  obtain ⟨whole, canonical, canonical'⟩ := same
  -- If the first path is as it should be, the second one is not.
  rcases canonical_of_reaches formed reached file canonical with spelt | misspelt
  · rcases canonical_of_reaches formed reached' file' canonical' with spelt' | misspelt
    · -- Both would be the canonical path.
      rw [spelt, spelt'] at differ
      exact absurd (Path.same_refl whole) differ
    · exact Or.inr misspelt
  · exact Or.inl misspelt

end Elf

namespace History

variable {tree : FileTree} {search : Elf.SearchPaths} {history : History}

/-- The seed leads to everything that was read. -/
theorem Sound.reaches_reads {sources : ModuleSources} (sound : history.Sound sources) {path : Path}
    (read : path ∈ history.run.reads) : sources.references.Reaches history.run.seed path := by
  have seen : path ∈ history.run.seen := sound.ledger.drawn.subset (List.mem_append_left _ read)
  exact sound.accounts.reached path (Or.inr (Or.inr seen))

/-- No file is answered or read twice in a run, unless one of its two paths is the seed or was needed by a name with a
slash, and is not the canonical one. -/
theorem files_found_once (formed : tree.WellFormed) {signals : Signals} {token : CancelToken} {seed : Path}
    {limit : Nat} {moves : List Move} {last : History}
    (played : (start signals token seed limit).play? (.ofTree tree search) moves = some last) :
    ((answeredModules last.answers).map (·.path)).Pairwise (fun left right => tree.SameFile left right →
      Elf.Misspelt tree search seed left ∨ Elf.Misspelt tree search seed right) ∧
    (last.run.reads.filter tree.isFile).Pairwise fun left right => tree.SameFile left right →
      Elf.Misspelt tree search seed left ∨ Elf.Misspelt tree search seed right := by
  obtain ⟨sound, about⟩ := sound_of_play? played
  have seeded : last.run.seed = seed := about.seed
  constructor
  · refine sound.differ.imp_of_mem fun {left right} first second differ same => ?_
    -- What was answered has been reached and is a file.
    have known : ∀ path ∈ (answeredModules last.answers).map (·.path),
        (ModuleSources.ofTree tree search).references.Reaches seed path ∧ tree.isFile path = true := by
      intro path member
      obtain ⟨module, answered, rfl⟩ := List.mem_map.mp member
      obtain ⟨described, reached⟩ := sound.member answered
      obtain ⟨info, linked, _⟩ := Elf.linkage?_of_describe described
      exact ⟨seeded ▸ reached, Elf.isFile_of_linkage? linked⟩
    obtain ⟨reached, file⟩ := known left first
    obtain ⟨reached', file'⟩ := known right second
    exact Elf.misspelt_of_sameFile formed reached reached' file file' differ same
  · -- For what was read it is the same; but what was read need not be a module.
    have drawn := (List.sublist_append_left last.run.reads _).subperm.trans sound.ledger.drawn
    have differ : last.run.reads.Pairwise Path.Differs := pairwise_differs_of_subperm sound.ledger.differ drawn
    refine (differ.sublist List.filter_sublist).imp_of_mem fun {left right} first second differ same => ?_
    obtain ⟨read, file⟩ := List.mem_filter.mp first
    obtain ⟨read', file'⟩ := List.mem_filter.mp second
    exact Elf.misspelt_of_sameFile formed (seeded ▸ sound.reaches_reads read) (seeded ▸ sound.reaches_reads read')
      file file' differ same

/-- A directory with two modules that need each other; relative paths start there. -/
def pair : FileTree where
  entries := [([['d']], .directory), ([['d'], ['a']], .file (Elf.smallModule ['b']) 0 0),
    ([['d'], ['b']], .file (Elf.smallModule ['a']) 0 0)]
  current := [['d']]

/-- Two modules that need each other are answered once each from a canonical seed. -/
theorem finds_pair_once :
    pair.WellFormed ∧ ∃ last,
      (start ⟨[false]⟩ ⟨0, none⟩ ⟨"/d/a".toList⟩ 2).play? (.ofTree pair {}) twoBatches = some last ∧
      (answeredModules last.answers).map (·.path) = [⟨"/d/a".toList⟩, ⟨"/d/b".toList⟩] ∧
      (last.run.reads.filter pair.isFile).Pairwise fun left right => pair.SameFile left right →
        Elf.Misspelt pair {} ⟨"/d/a".toList⟩ left ∨ Elf.Misspelt pair {} ⟨"/d/a".toList⟩ right := by
  have formed : pair.WellFormed := by decide +kernel
  have ran : ((start ⟨[false]⟩ ⟨0, none⟩ ⟨"/d/a".toList⟩ 2).play? (.ofTree pair {}) twoBatches).any (fun last =>
      (answeredModules last.answers).map (·.path) = [⟨"/d/a".toList⟩, ⟨"/d/b".toList⟩]) = true := by
    decide +kernel
  obtain ⟨last, played, facts⟩ := (Option.any_eq_true ..).mp ran
  exact ⟨formed, last, played, of_decide_eq_true facts, (files_found_once formed played).2⟩

/-- A module that needs itself is answered twice if the seed is not its canonical path. -/
theorem relative_seed_found_twice :
    let tree : FileTree :=
      { entries := [([['d']], .directory), ([['d'], ['a']], .file (Elf.smallModule ['a']) 0 0)], current := [['d']] }
    tree.WellFormed ∧ tree.SameFile ⟨['a']⟩ ⟨"/d/a".toList⟩ ∧
    ∃ last, (start ⟨[false]⟩ ⟨0, none⟩ ⟨['a']⟩ 2).play? (.ofTree tree {}) twoBatches = some last ∧
      last.run.state = .completed ∧ (answeredModules last.answers).map (·.path) = [⟨['a']⟩, ⟨"/d/a".toList⟩] := by
  intro tree
  have ran : ((start ⟨[false]⟩ ⟨0, none⟩ ⟨['a']⟩ 2).play? (.ofTree tree {}) twoBatches).any (fun last =>
      last.run.state = .completed ∧
      (answeredModules last.answers).map (·.path) = [⟨['a']⟩, ⟨"/d/a".toList⟩]) = true := by
    decide +kernel
  obtain ⟨last, played, facts⟩ := (Option.any_eq_true ..).mp ran
  -- The seed is relative to the directory of the file.
  have same : tree.SameFile ⟨['a']⟩ ⟨"/d/a".toList⟩ := ⟨⟨"/d/a".toList⟩, by decide +kernel, by decide +kernel⟩
  exact ⟨by decide +kernel, same, last, played, of_decide_eq_true facts⟩

end History

end ModuleScope
