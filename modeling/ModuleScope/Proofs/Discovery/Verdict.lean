import ModuleScope.Proofs.Discovery.Completeness
import ModuleScope.Proofs.Elf.References

/-! Whether a run completes depends on what can be read, and a run that faults says why unless cancelled unseen. -/

namespace ModuleScope

namespace History

variable {sources : ModuleSources} {history : History}

/-- A path that is asked for by modules that were answered can be reached. -/
theorem Sound.wanted (sound : history.Sound sources) {path : Path}
    (wanted : Wanted history.run.seed (answeredModules history.answers) path) :
    sources.references.Reaches history.run.seed path := by
  rcases wanted with rfl | ⟨module, member, listed⟩
  · exact Relation.ReflTransGen.refl
  · -- The module was reached and read itself.
    obtain ⟨described, reached⟩ := sound.member member
    exact reached.tail ⟨_, (ModuleSources.references_of_describe described).1, listed⟩

/-- In a run that completes every path that can be reached can be read. -/
theorem Sound.readable (sound : history.Sound sources) (alike : sources.references.AlikeFrom history.run.seed)
    (completed : history.run.state = .completed) {path : Path}
    (reached : sources.references.Reaches history.run.seed path) :
    ∃ module, sources.describe path = .ok module := by
  -- The path is the same as that of a module that was read, and the seed leads to both.
  obtain ⟨other, listed, same⟩ := (sound.exhausted completed).reaches alike
    (fun _ member => (ModuleSources.references_of_describe (sound.member member).1).1)
    (fun _ member => (sound.member member).2) reached
  obtain ⟨module, member, rfl⟩ := List.mem_map.mp listed
  obtain ⟨described, found⟩ := sound.member member
  -- What is answered for one spelling is answered for the other.
  obtain ⟨references, answered, _⟩ :=
    alike _ _ _ found reached (Path.same_symm same) (ModuleSources.references_of_describe described).1
  cases described : sources.describe path with
  | error error => simp [ModuleSources.references, described, Except.map] at answered
  | ok module => exact ⟨module, rfl⟩

/-- An error was answered last, and it is why a path that is asked for could not be read. -/
def EndsInError (sources : ModuleSources) (history : History) : Prop :=
  ∃ path error later, Wanted history.run.seed (answeredModules history.answers) path ∧
    sources.describe path = .error error ∧
    history.answers =
      modulesOnly history.answers ++ some (.error error) :: List.replicate later none

/-- A run that faults had an error to answer, or the coordinator left because it missed a cancellation. -/
theorem Sound.faulted (sound : history.Sound sources) (faulted : history.run.state = .faulted) :
    (∃ path error, Wanted history.run.seed (answeredModules history.answers) path ∧
      sources.describe path = .error error) ∧
      (history.run.consumer = .resting → history.EndsInError sources) ∨
    history.straddled = true ∧ history.signals.isCancelled history.run.token = true := by
  -- The end of a run that has faulted is one of two.
  obtain ⟨answer, ending, told⟩ := sound.endings.conclusion (by rw [faulted]; rfl)
  rw [faulted] at ending
  cases ending with
  | faulted wanted failed =>
    refine Or.inl ⟨⟨_, _, wanted, failed⟩, fun resting => ?_⟩
    rcases told with ⟨joining, _⟩ | ⟨later, answers, _⟩
    · -- The call that ended the run is still waiting, which a resting consumer has not.
      cases joining.symm.trans resting
    · exact ⟨_, _, later, wanted, failed, answers⟩
  | deserted missed observed => exact Or.inr ⟨missed, observed⟩

/-- A run that has ended without being cancelled has completed, or the seed leads to a path that cannot be read. -/
theorem Sound.completed_or_faulted (sound : history.Sound sources)
    (live : history.signals.isCancelled history.run.token = false) (ended : history.run.state.hasEnded = true) :
    history.run.state = .completed ∨ history.run.state = .faulted ∧
      ∃ path error, sources.references.Reaches history.run.seed path ∧ sources.describe path = .error error := by
  -- The two other ends need a cancelled token.
  obtain ⟨answer, ending, _⟩ := sound.endings.conclusion ended
  generalize history.run.state = state at ending
  cases ending with
  | completed _ => exact Or.inl rfl
  | faulted wanted failed => exact Or.inr ⟨rfl, _, _, sound.wanted wanted, failed⟩
  | deserted _ observed => cases live.symm.trans observed
  | cancelled observed => cases live.symm.trans observed

/-- If a path that can be reached in more than one way of writing it is answered alike each time, a run that has ended
and was not cancelled has completed if all that can be reached can be read, and it has faulted otherwise; then one error
was answered, after modules that were reached and read once each. -/
theorem verdict_depends_on_reads {seed : Path} (alike : sources.references.AlikeFrom seed) {signals : Signals}
    {token : CancelToken} {limit : Nat} {moves : List Move} {last : History}
    (played : (start signals token seed limit).play? sources moves = some last)
    (live : last.signals.isCancelled last.run.token = false)
    (ended : last.run.state.hasEnded = true) :
    (last.run.state = .completed ∨ last.run.state = .faulted) ∧
    (last.run.state = .completed ↔
      ∀ path, sources.references.Reaches seed path → ∃ module, sources.describe path = .ok module) ∧
    (last.run.state = .faulted → last.run.consumer = .resting → last.EndsInError sources) ∧
    (∀ module ∈ answeredModules last.answers, sources.describe module.path = .ok module ∧
      sources.references.Reaches seed module.path) ∧
    ((answeredModules last.answers).map (·.path)).Pairwise Path.Differs := by
  obtain ⟨sound, same⟩ := sound_of_play? played
  have seeded : last.run.seed = seed := same.seed
  -- Without a cancellation a fault comes of an error.
  have fault : last.run.state = .faulted →
      (∃ path error, Wanted last.run.seed (answeredModules last.answers) path ∧
        sources.describe path = .error error) ∧
      (last.run.consumer = .resting → last.EndsInError sources) := by
    intro faulted
    rcases sound.faulted faulted with error | ⟨_, cancelled⟩
    · exact error
    · cases live.symm.trans cancelled
  -- Without a cancellation no other ends are left.
  have either : last.run.state = .completed ∨ last.run.state = .faulted :=
    (sound.completed_or_faulted live ended).imp_right And.left
  refine ⟨either, ⟨fun completed path reached => ?_, fun readable => ?_⟩,
    fun faulted => (fault faulted).2, fun module member => seeded ▸ sound.member member,
    sound.differ⟩
  · -- A run that completes has read all that can be reached.
    exact sound.readable (seeded.symm ▸ alike) completed (seeded.symm ▸ reached)
  · -- A fault would come of a path that cannot be read.
    refine either.resolve_right fun faulted => ?_
    obtain ⟨path, error, wanted, failed⟩ := (fault faulted).1
    obtain ⟨module, described⟩ := readable path (seeded ▸ sound.wanted wanted)
    cases failed.symm.trans described

/-- A run whose second batch cannot be read, and whose consumer takes all. -/
def failingBatch : List Move :=
  [.call, .act .consumer] ++ List.replicate 3 (.act .coordinator) ++
    List.replicate 5 (.act (.worker 0)) ++ List.replicate 10 (.act .coordinator) ++
    List.replicate 5 (.act (.worker 0)) ++ List.replicate 5 (.act .coordinator) ++
    [.act .consumer, .call, .act .consumer, .act .consumer, .act .consumer]

/-- A directory with a module and the file that it needs, which is no module. -/
def brokenPair : FileTree where
  entries := [([['d']], .directory), ([['d'], ['a']], .file (Elf.smallModule ['b']) 0 0),
    ([['d'], ['b']], .file .empty 0 0)]
  current := [['d']]

/-- The module leads to the two files only, and to each in one way of writing its path. -/
theorem alikeFrom_brokenPair : (ModuleSources.ofTree brokenPair {}).references.AlikeFrom ⟨"/d/a".toList⟩ := by
  have needed : (ModuleSources.ofTree brokenPair {}).references ⟨"/d/a".toList⟩ = .ok [⟨"/d/b".toList⟩] := by
    decide +kernel
  have unread : ((ModuleSources.ofTree brokenPair {}).references ⟨"/d/b".toList⟩).toOption = none := by
    decide +kernel
  have reached : ∀ path, (ModuleSources.ofTree brokenPair {}).references.Reaches ⟨"/d/a".toList⟩ path →
      path = ⟨"/d/a".toList⟩ ∨ path = ⟨"/d/b".toList⟩ := by
    intro path reached
    induction reached with
    | refl => exact Or.inl rfl
    | tail _ refers ih =>
      obtain ⟨references, answered, listed⟩ := refers
      rcases ih with rfl | rfl
      · rw [needed, Except.ok.injEq] at answered
        exact Or.inr (List.mem_singleton.mp (answered ▸ listed))
      · -- The second file refers to nothing.
        rw [answered] at unread
        cases unread
  -- Different paths among the two differ in their parts.
  refine ReferenceAnswers.alikeFrom_of_spelt_once fun left right first second same => ?_
  rcases reached left first with rfl | rfl <;> rcases reached right second with rfl | rfl
  · rfl
  · exact absurd same (by decide)
  · exact absurd same (by decide)
  · rfl

/-- A module that needs a file which is no module is answered, and then there is an error. -/
theorem verdict_on_missing_module :
    ∃ last, (start ⟨[false]⟩ ⟨0, none⟩ ⟨"/d/a".toList⟩ 2).play? (.ofTree brokenPair {}) failingBatch = some last ∧
      last.signals.isCancelled last.run.token = false ∧ last.run.state = .faulted ∧
      (answeredModules last.answers).map (·.path) = [⟨"/d/a".toList⟩] ∧
      last.EndsInError (.ofTree brokenPair {}) := by
  have ran : ((start ⟨[false]⟩ ⟨0, none⟩ ⟨"/d/a".toList⟩ 2).play? (.ofTree brokenPair {}) failingBatch).any
      (fun last => last.run.state = .faulted ∧ (answeredModules last.answers).map (·.path) = [⟨"/d/a".toList⟩] ∧
        (last.move? (.ofTree brokenPair {}) .call).isSome) = true := by
    decide +kernel
  obtain ⟨last, played, facts⟩ := (Option.any_eq_true ..).mp ran
  obtain ⟨faulted, paths, more⟩ := of_decide_eq_true facts
  -- The consumer could call once more.
  have resting : last.run.consumer = .resting := by
    obtain ⟨next, called⟩ := Option.isSome_iff_exists.mp more
    cases move?_moved called with
    | called resting => exact resting
  -- Nobody cancels anything.
  have live := live_of_calm rfl (by decide) (by simp) (by simp [failingBatch]) played
  have verdict := verdict_depends_on_reads alikeFrom_brokenPair played live (by rw [faulted]; rfl)
  exact ⟨last, played, live, faulted, paths, verdict.2.2.1 faulted resting⟩

/-- A run completes although a slash after a file's name asks for a directory, for it has read the file. -/
theorem completes_past_unreadable_spelling :
    let sources : ModuleSources := .ofGraph [(⟨['a']⟩, [⟨['b']⟩, ⟨['b', '/']⟩]), (⟨['b']⟩, [])]
      (FileTree.modified
        { entries := [([['a']], .file .empty 0 0), ([['b']], .file .empty 0 0)], current := [] })
    sources.ByPath ∧
    sources.references.Reaches ⟨['a']⟩ ⟨['b', '/']⟩ ∧
    sources.describe ⟨['b', '/']⟩ = .error (.io ⟨['b', '/']⟩ (.system .notDirectory)) ∧
    ∃ last, (start ⟨[false]⟩ ⟨0, none⟩ ⟨['a']⟩ 2).play? sources twoBatches = some last ∧
      last.signals.isCancelled last.run.token = false ∧ last.run.state = .completed := by
  intro sources
  refine ⟨ModuleSources.ofGraph_byPath _ _, ?_, by decide +kernel, ?_⟩
  · -- The first module refers to both spellings.
    have answered : sources.references ⟨['a']⟩ = .ok [⟨['b']⟩, ⟨['b', '/']⟩] := by decide +kernel
    exact Relation.ReflTransGen.single ⟨_, answered, by decide⟩
  · -- The run reads the first spelling, and takes the second one for the same path.
    have ran : ((start ⟨[false]⟩ ⟨0, none⟩ ⟨['a']⟩ 2).play? sources twoBatches).any (fun last =>
        last.signals.isCancelled last.run.token = false ∧ last.run.state = .completed) = true := by
      decide +kernel
    obtain ⟨last, played, facts⟩ := (Option.any_eq_true ..).mp ran
    exact ⟨last, played, of_decide_eq_true facts⟩

/-- A run that has faulted had an error, which is answered last, unless the caller's token was cancelled
after the coordinator had looked at it and before it looked at the stop token. -/
theorem faults_with_error_unless_straddled {signals : Signals} {token : CancelToken} {seed : Path}
    {limit : Nat} {moves : List Move} {last : History}
    (played : (start signals token seed limit).play? sources moves = some last)
    (faulted : last.run.state = .faulted) :
    (∃ path error, Wanted seed (answeredModules last.answers) path ∧
      sources.describe path = .error error) ∧
      (last.run.consumer = .resting → last.EndsInError sources) ∨
    last.straddled = true ∧ last.signals.isCancelled token = true := by
  obtain ⟨sound, same⟩ := sound_of_play? played
  have seeded : last.run.seed = seed := same.seed
  have given : last.run.token = token := same.token
  have fault := sound.faulted faulted
  rw [seeded, given] at fault
  exact fault

/-- A token that is cancelled between the looks of the coordinator, while the consumer waits. -/
def straddledStart : List Move :=
  [.call, .act .consumer, .act .coordinator, .cancel ⟨0, none⟩, .act .coordinator, .act .consumer,
    .act .consumer]

/-- A run whose token is cancelled between two looks faults without an error, and nothing has been read. -/
theorem straddled_run_faults_without_error :
    ∃ last, (start ⟨[false]⟩ ⟨0, none⟩ ⟨['a']⟩ 1).play? (.ofGraph [(⟨['a']⟩, [])] fun _ => .ok none)
        straddledStart = some last ∧
      last.run.state = .faulted ∧ last.answers = [none] ∧ last.run.reads = [] ∧
      last.signals.isCancelled last.run.token = true :=
  ⟨_, rfl, rfl, rfl, rfl, rfl⟩

/-- Such a run has missed the cancellation. -/
theorem straddled_run_misses_cancellation :
    ∃ last, (start ⟨[false]⟩ ⟨0, none⟩ ⟨['a']⟩ 1).play? (.ofGraph [(⟨['a']⟩, [])] fun _ => .ok none)
        straddledStart = some last ∧
      last.run.state = .faulted ∧ last.straddled = true := by
  -- The run is played to its end; there it has answered with nothing.
  obtain ⟨last, played, faulted, answers, resting⟩ :
      ∃ last, (start ⟨[false]⟩ ⟨0, none⟩ ⟨['a']⟩ 1).play?
        (.ofGraph [(⟨['a']⟩, [])] fun _ => .ok none) straddledStart = some last ∧
        last.run.state = .faulted ∧ last.answers = [none] ∧ last.run.consumer = .resting :=
    ⟨_, rfl, rfl, rfl, rfl⟩
  refine ⟨last, played, faulted, ?_⟩
  rcases faults_with_error_unless_straddled played faulted with ⟨_, told⟩ | ⟨missed, _⟩
  · -- No error was answered.
    obtain ⟨path, error, later, _, _, listed⟩ := told resting
    rw [answers] at listed
    cases listed
  · exact missed

end History

end ModuleScope
