import ModuleScope.Proofs.Discovery.Sound

/-! A run reads each module at most once, and a run that completes has found all that its seed leads to. -/

namespace ModuleScope

/-- Both modules are the same one, however its path is written and whenever its file was changed. -/
def FoundModule.Resembles (left right : FoundModule) : Prop :=
  left.path.Same right.path ∧ left.declared = right.declared ∧ left.digest = right.digest

/-- Each module on either side is on the other side too. -/
def SameModules (left right : List FoundModule) : Prop :=
  (∀ module ∈ left, ∃ other ∈ right, module.Resembles other) ∧
    ∀ module ∈ right, ∃ other ∈ left, module.Resembles other

/-- The modules are the ones that the seed leads to. -/
structure Discovers (sources : ModuleSources) (seed : Path) (modules : List FoundModule) : Prop where
  /-- Each module is what was read at its path. -/
  described : ∀ module ∈ modules, sources.describe module.path = .ok module
  /-- The seed leads to each module. -/
  reached : ∀ module ∈ modules, sources.readReferences.Reaches seed module.path
  /-- Each path that the seed leads to is that of a module. -/
  all : ∀ path, sources.readReferences.Reaches seed path → path.IsAmong (modules.map (·.path))

/-- Modules that the same seed leads to are the same modules. -/
theorem Discovers.resembles {sources : ModuleSources} (byPath : sources.ByPath) {seed : Path}
    {left right : List FoundModule} (first : Discovers sources seed left)
    (second : Discovers sources seed right) :
    ∀ module ∈ left, ∃ other ∈ right, module.Resembles other := by
  intro module member
  -- The second list has all that the seed leads to, and so the path of this module.
  obtain ⟨path, listed, same⟩ := second.all _ (first.reached module member)
  obtain ⟨other, found, rfl⟩ := List.mem_map.mp listed
  -- Both have been read at paths that are the same.
  have mine := ModuleSources.describe_ok (first.described module member)
  have theirs := ModuleSources.describe_ok (second.described other found)
  have declared := byPath.read _ _ _ same mine.2.1
  have digest := byPath.digest _ _ _ same mine.2.2.1
  rw [theirs.2.1, Except.ok.injEq] at declared
  rw [theirs.2.2.1, Except.ok.injEq] at digest
  exact ⟨other, found, same, declared.symm, digest.symm⟩

/-- Modules given by a list, which are found however their paths are written and have one digest. -/
def ModuleSources.ofGraph (graph : List (Path × List Path))
    (modified : Path → Except OsError (Option FileTime)) : ModuleSources where
  read path :=
    match graph.find? fun entry => decide (path.Same entry.1) with
    | some entry => .ok ⟨entry.1.chars, entry.2⟩
    | none => .error (.notFound path)
  digest _ := .ok ⟨Vector.replicate 32 0⟩
  modified := modified

/-- How a path is written does not matter for modules given by a list. -/
theorem ModuleSources.ofGraph_byPath (graph : List (Path × List Path))
    (modified : Path → Except OsError (Option FileTime)) : (ofGraph graph modified).ByPath where
  read left right declared same answered := by
    -- Only the parts of the path are looked at.
    have lookup : (graph.find? fun entry => decide (right.Same entry.1)) =
        graph.find? fun entry => decide (left.Same entry.1) := by
      congr 1
      funext entry
      exact decide_eq_decide.mpr ⟨Path.same_trans same, Path.same_trans (Path.same_symm same)⟩
    simp only [ofGraph, lookup] at answered ⊢
    split at answered
    · exact answered
    · cases answered
  digest _ _ _ _ answered := answered

namespace History

variable {sources : ModuleSources} {history : History}

/-- The modules that were answered are accounted for. -/
theorem Sound.answered (sound : history.Sound sources) :
    Accounted sources ((answeredModules history.answers).map .ok) [] history.run.seen := by
  refine sound.accounts.accounted.mono ?_ (List.nil_sublist _)
  simp [delivered, found, List.append_assoc]

/-- A module that was answered was read at its own path, which the seed leads to. -/
theorem Sound.member (sound : history.Sound sources) {module : FoundModule}
    (member : module ∈ answeredModules history.answers) :
    sources.describe module.path = .ok module ∧
      sources.references.Reaches history.run.seed module.path := by
  obtain ⟨path, seen, described⟩ := sound.answered.exists_path (List.mem_map_of_mem member)
  -- The path that was read is that of the module, as the descriptor keeps it.
  have same := (ModuleSources.describe_ok described).1
  exact ⟨ModuleSources.describe_path described,
    same ▸ sound.accounts.reached path (Or.inr (Or.inr seen))⟩

/-- No two modules that were answered have the same path. -/
theorem Sound.differ (sound : history.Sound sources) :
    ((answeredModules history.answers).map (·.path)).Pairwise Path.Differs := by
  have drawn := sound.answered.paths_subperm
  rw [List.append_nil] at drawn
  exact pairwise_differs_of_subperm sound.ledger.differ drawn

/-- A run that completes has answered everything that is asked for. -/
theorem Sound.exhausted (sound : history.Sound sources) (completed : history.run.state = .completed) :
    Exhausted history.run.seed (answeredModules history.answers) := by
  -- A run that has ended has one of the endings, and this is the only one that is completed.
  obtain ⟨answer, ending, _⟩ := sound.endings.conclusion (by rw [completed]; rfl)
  rw [completed] at ending
  cases ending with
  | completed exhausted => exact exhausted

/-- A run that completes has found the modules that its seed leads to. -/
theorem Sound.discovers (sound : history.Sound sources) (byPath : sources.ByPath)
    (completed : history.run.state = .completed) :
    Discovers sources history.run.seed (answeredModules history.answers) where
  described _ member := (sound.member member).1
  reached _ member := ModuleSources.reaches_readReferences (sound.member member).2
  all _ reached := (sound.exhausted completed).reaches (byPath.readReferences.alikeFrom _)
    (fun _ member => (ModuleSources.references_of_describe (sound.member member).1).2)
    (fun _ member => ModuleSources.reaches_readReferences (sound.member member).2) reached

/-- However a run is scheduled and cancelled, it reads no path twice and answers no module twice, and if it
completes it has answered just the modules that its seed leads to, as every other run from there does. -/
theorem discovers_each_module_once (byPath : sources.ByPath) {signals : Signals} {token : CancelToken}
    {seed : Path} {limit : Nat} {moves : List Move} {last : History}
    (played : (start signals token seed limit).play? sources moves = some last) :
    last.run.reads.Pairwise Path.Differs ∧
    ((answeredModules last.answers).map (·.path)).Pairwise Path.Differs ∧
    (last.run.state = .completed →
      Discovers sources seed (answeredModules last.answers) ∧
      ∀ signals' token' limit' moves' last',
        (start signals' token' seed limit').play? sources moves' = some last' →
        last'.run.state = .completed →
        SameModules (answeredModules last.answers) (answeredModules last'.answers)) := by
  obtain ⟨sound, same⟩ := sound_of_play? played
  refine ⟨?_, sound.differ, fun completed => ?_⟩
  · -- Whatever was read had been seen before.
    have drawn := (List.sublist_append_left _ _).subperm.trans sound.ledger.drawn
    exact pairwise_differs_of_subperm sound.ledger.differ drawn
  · have seeded : last.run.seed = seed := same.seed
    have mine := seeded ▸ sound.discovers byPath completed
    refine ⟨mine, fun signals' token' limit' moves' last' played' completed' => ?_⟩
    -- Another run is just as sound, so it has found the same modules.
    obtain ⟨sound', same'⟩ := sound_of_play? played'
    have seeded' : last'.run.seed = seed := same'.seed
    have theirs := seeded' ▸ sound'.discovers byPath completed'
    exact ⟨mine.resembles byPath theirs, theirs.resembles byPath mine⟩

/-- A run of two batches with a worker in each, whose consumer waits for the first event and takes all. -/
def twoBatches : List Move :=
  [.call, .act .consumer] ++ List.replicate 3 (.act .coordinator) ++
    List.replicate 5 (.act (.worker 0)) ++ List.replicate 10 (.act .coordinator) ++
    List.replicate 5 (.act (.worker 0)) ++ List.replicate 10 (.act .coordinator) ++
    [.act .consumer, .call, .act .consumer, .act .consumer, .call, .act .consumer,
      .act .coordinator, .act .consumer, .act .consumer]

/-- Two modules that refer to each other, one of them in two spellings, are answered once each. -/
theorem discovers_two_modules_once :
    ∃ last, (start ⟨[false]⟩ ⟨0, none⟩ ⟨['a']⟩ 2).play?
        (.ofGraph [(⟨['a']⟩, [⟨['b']⟩, ⟨['b', '/']⟩]), (⟨['b']⟩, [⟨['a']⟩])] fun _ => .ok none)
        twoBatches = some last ∧
      last.run.state = .completed ∧
      (answeredModules last.answers).map (·.path) = [⟨['a']⟩, ⟨['b']⟩] ∧
      ((answeredModules last.answers).map (·.path)).Pairwise Path.Differs := by
  have ran : ((start ⟨[false]⟩ ⟨0, none⟩ ⟨['a']⟩ 2).play?
      (.ofGraph [(⟨['a']⟩, [⟨['b']⟩, ⟨['b', '/']⟩]), (⟨['b']⟩, [⟨['a']⟩])] fun _ => .ok none)
      twoBatches).any (fun last => last.run.state = .completed ∧
        (answeredModules last.answers).map (·.path) = [⟨['a']⟩, ⟨['b']⟩]) = true := by
    decide +kernel
  obtain ⟨last, played, facts⟩ := (Option.any_eq_true ..).mp ran
  obtain ⟨completed, paths⟩ := of_decide_eq_true facts
  have once := discovers_each_module_once (ModuleSources.ofGraph_byPath _ _) played
  exact ⟨last, played, completed, paths, once.2.1⟩

end History

end ModuleScope
