import ModuleScope.Proofs.Discovery.Responses
import ModuleScope.Proofs.Discovery.Sequence

/-! What a run yields that reads one module at a time: a breadth-first search up to the first path without a module. -/

namespace ModuleScope

namespace Search

variable {answers : ReferenceAnswers} {seed : Path} {visits more : Nat}

/-- A visit adds one path at most to those that have been visited. -/
theorem visited_length_le (fewer : visits ≤ more) :
    (after answers seed more).visited.length + visits ≤ (after answers seed visits).visited.length + more := by
  induction fewer with
  | refl => exact Nat.le_refl _
  | @step more _ ih =>
    -- A visit finds the queue empty, or it takes one path from it.
    have one : ((after answers seed more).visit answers).visited.length ≤
        (after answers seed more).visited.length + 1 := by
      cases queue : (after answers seed more).queue with
      | nil => simp [visit_nil queue]
      | cons path rest => simp [visit_cons queue]
    simp only [after]
    omega

/-- As long as each visit finds a path, the paths visited are the first ones of those that are visited later. -/
theorem visited_eq_take (all : (after answers seed more).visited.length = more) (fewer : visits ≤ more) :
    (after answers seed visits).visited = (after answers seed more).visited.take visits := by
  have most := @visited_length_le answers seed 0 visits (Nat.zero_le _)
  have least := @visited_length_le answers seed visits more fewer
  -- With too few paths at first there could not be as many later.
  have length : (after answers seed visits).visited.length = visits := by
    simp only [after, start, List.length_nil] at most
    omega
  obtain ⟨rest, whole⟩ := @visited_mono answers seed visits more fewer
  rw [← whole, List.take_append_of_le_length (by omega), List.take_of_length_le (by omega)]

end Search

/-- Each module but that of the seed comes after one that refers to it. -/
def FollowReferences (seed : Path) (modules : List FoundModule) : Prop :=
  ∀ before module later, modules = before ++ module :: later →
    before = [] ∧ module.path = seed ∨ ∃ earlier ∈ before, module.path ∈ earlier.declared.references

namespace ModuleSources

variable {sources : ModuleSources} {seed : Path} {modules : List FoundModule} {visits : Nat}

/-- A path that was visited refers to what its module lists. -/
theorem refersTo_of_visited (described : (Search.after sources.references seed visits).visited.map sources.describe =
    modules.map .ok) {module : FoundModule} (member : module ∈ modules) :
    sources.references module.path = .ok module.declared.references := by
  have known : Except.ok module ∈ (Search.after sources.references seed visits).visited.map sources.describe :=
    described ▸ List.mem_map_of_mem member
  obtain ⟨path, _, answered⟩ := List.mem_map.mp known
  exact (references_of_describe (describe_path answered)).1

/-- Modules that were visited come after others that refer to them. -/
theorem followReferences_of_visited
    (described : (Search.after sources.references seed visits).visited.map sources.describe = modules.map .ok) :
    FollowReferences seed modules := by
  have paths := paths_of_modules described
  intro before module later split
  -- What has been met begins with the paths of the modules, in their order.
  have met : (Search.after sources.references seed visits).met = before.map (·.path) ++ module.path ::
      (later.map (·.path) ++ (Search.after sources.references seed visits).queue) := by
    rw [Search.met, paths, split]
    simp
  rcases (Search.explores_after sources.references seed visits).led _ _ _ met with ⟨none, first⟩ | earlier
  · exact Or.inl ⟨List.map_eq_nil_iff.mp none, first⟩
  · obtain ⟨path, listed, _, references, answered, refers⟩ := earlier
    obtain ⟨other, member, rfl⟩ := List.mem_map.mp listed
    -- The module at the path before lists what is listed there.
    have known := refersTo_of_visited described (split ▸ List.mem_append_left _ member)
    rw [answered, Except.ok.injEq] at known
    exact Or.inr ⟨other, member, known ▸ refers⟩

/-- Modules that were visited are in the order of their distances, where it does not matter how paths are written. -/
theorem inOrderOfDistance_of_visited (consistent : sources.references.Consistent)
    (described : (Search.after sources.references seed visits).visited.map sources.describe = modules.map .ok) :
    InOrderOfDistance sources.references seed (modules.map (·.path)) := by
  have paths := paths_of_modules described
  -- All that was visited has become modules, so it could be read.
  have readable : ∀ path ∈ (Search.after sources.references seed visits).visited,
      ∃ references, sources.references path = .ok references := by
    intro path visited
    rw [paths] at visited
    obtain ⟨module, member, rfl⟩ := List.mem_map.mp visited
    exact ⟨_, refersTo_of_visited described member⟩
  rw [← paths]
  exact Search.inOrderOfDistance_visited consistent readable

/-- By the references that they list themselves, modules that were visited are always in the order of their
distances. -/
theorem inOrderOfDistance_ofModules
    (described : (Search.after sources.references seed visits).visited.map sources.describe = modules.map .ok) :
    InOrderOfDistance (.ofModules modules) seed (modules.map (·.path)) := by
  have paths := paths_of_modules described
  have differ : (modules.map (·.path)).Pairwise Path.Differs :=
    paths ▸ (List.pairwise_append.mp (Search.explores_after sources.references seed visits).differ).1
  -- Each module answers for its own path, as all paths differ.
  have listed : ∀ path ∈ (Search.after sources.references seed visits).visited,
      ∃ references, ReferenceAnswers.ofModules modules path = .ok references ∧
        sources.references path = .ok references := by
    intro path visited
    rw [paths] at visited
    obtain ⟨module, member, rfl⟩ := List.mem_map.mp visited
    exact ⟨_, ReferenceAnswers.ofModules_path differ member, refersTo_of_visited described member⟩
  -- A search by these references goes the same way.
  have same : Search.after (.ofModules modules) seed visits = Search.after sources.references seed visits := by
    refine Search.after_congr fun path visited => ?_
    obtain ⟨references, mine, theirs⟩ := listed path visited
    rw [ReferenceAnswers.listed, ReferenceAnswers.listed, mine, theirs]
  rw [← paths, ← same]
  refine Search.inOrderOfDistance_visited (ReferenceAnswers.consistent_ofModules modules) fun path visited => ?_
  obtain ⟨references, mine, _⟩ := listed path (same ▸ visited)
  exact ⟨references, mine⟩

/-- A search that has visited all that is asked for has nothing left to visit. -/
theorem visited_all (exhausted : Exhausted seed modules)
    (described : (Search.after sources.references seed visits).visited.map sources.describe = modules.map .ok) :
    (Search.after sources.references seed visits).queue = [] := by
  have paths := paths_of_modules described
  have explores := Search.explores_after sources.references seed visits
  cases queue : (Search.after sources.references seed visits).queue with
  | nil => rfl
  | cons next rest =>
    have met : (Search.after sources.references seed visits).met = modules.map (·.path) ++ next :: rest := by
      rw [Search.met, queue, paths]
    -- The next path would be asked for without having been visited.
    have wanted : Wanted seed modules next := by
      rcases explores.led _ _ _ met with ⟨_, first⟩ | ⟨path, listed, _, references, answered, refers⟩
      · exact Or.inl first
      · obtain ⟨module, member, rfl⟩ := List.mem_map.mp listed
        have known := refersTo_of_visited described member
        rw [answered, Except.ok.injEq] at known
        exact Or.inr ⟨module, member, known ▸ refers⟩
    -- Being asked for it is among the modules, and so it has been met twice.
    obtain ⟨other, member, same⟩ := exhausted next wanted
    have differ := explores.differ
    rw [met] at differ
    exact absurd (Path.same_symm same) ((List.pairwise_append.mp differ).2.2 other member next List.mem_cons_self)

end ModuleSources

namespace History

variable {sources : ModuleSources} {history before after last : History}

/-- A run yields the modules that it has answered, and the error after them if it has answered one. -/
theorem Told.yielded {error? : Option ModuleFailure} {later : Nat} (told : history.Told sources error? later) :
    history.yielded = (answeredModules history.answers).map .ok ++ error?.toList.map .error := by
  have answers := congrArg (List.filterMap id) told.answers
  rw [History.yielded, answers]
  cases error? <;> simp [modulesOnly, List.filterMap_map]

/-- Nothing comes after an error among what a run yields. -/
theorem Told.throughError {error? : Option ModuleFailure} {later : Nat} (told : history.Told sources error? later) :
    throughError history.yielded = history.yielded := by
  rw [told.yielded]
  cases error? with
  | none => simp [throughError_modules]
  | some error => exact throughError_error _ error []

/-- A run yields what comes of the paths that the search has visited. -/
theorem InSequence.visited (sequence : history.InSequence sources) (sound : history.Sound sources) {visits : Nat}
    (fewer : visits ≤ history.yielded.length) :
    (Search.after sources.references history.run.seed visits).visited.map sources.describe =
      history.yielded.take visits := by
  by_cases idle : history.run.state = .idle
  · -- Nothing has been answered yet.
    have none : history.yielded = [] := by rw [yielded, sound.silent idle, List.filterMap_nil]
    rw [none, List.length_nil, Nat.le_zero] at fewer
    rw [fewer, none]
    rfl
  · have searched := sequence.searched idle
    have all : (Search.after sources.references history.run.seed history.run.seen.length).visited.length =
        history.run.seen.length := by rw [searched, List.length_reverse]
    -- The answers come first in what the run passes on, so they are a first part of it.
    have passed : history.yielded <+: history.run.seen.reverse.map sources.describe := by
      rw [← sequence.passed, pipeline]
      simp only [List.append_assoc]
      exact List.prefix_append _ _
    have short := passed.length_le
    rw [List.length_map, List.length_reverse] at short
    rw [Search.visited_eq_take all (Nat.le_trans fewer short), searched, List.map_take]
    -- What is yielded is the first part of all outcomes.
    obtain ⟨rest, whole⟩ := passed
    rw [← whole, List.take_append_of_le_length fewer]

/-- The modules answered are those of the paths that the search has visited. -/
theorem InSequence.modules (sequence : history.InSequence sources) (sound : history.Sound sources) :
    (Search.after sources.references history.run.seed (answeredModules history.answers).length).visited.map
      sources.describe = (answeredModules history.answers).map .ok := by
  obtain ⟨error?, later, told⟩ := sound.endings.told
  rw [sequence.visited sound (by simp [told.yielded]), told.yielded, List.take_append_of_le_length (by simp)]
  exact List.take_of_length_le (by simp)

/-- What a run yields is a breadth-first search as far as it has got. -/
theorem InSequence.yields (sequence : history.InSequence sources) (sound : history.Sound sources) :
    history.yielded = sources.breadthFirst history.run.seed history.yielded.length := by
  obtain ⟨error?, later, told⟩ := sound.endings.told
  rw [ModuleSources.breadthFirst, sequence.visited sound (Nat.le_refl _), List.take_length, told.throughError]

/-- A run that has ended has yielded the whole search. -/
theorem InSequence.whole (sequence : history.InSequence sources) (sound : history.Sound sources)
    (live : history.signals.isCancelled history.run.token = false) (ended : history.run.state.hasEnded = true)
    (resting : history.run.consumer = .resting) (visits : Nat) :
    sources.breadthFirst history.run.seed visits <+: history.yielded := by
  -- As far as the run has got there is nothing to show.
  rcases Nat.le_total visits history.yielded.length with fewer | more
  · rw [sequence.yields sound]
    exact ModuleSources.breadthFirst_mono fewer
  obtain ⟨error?, later, told⟩ := sound.endings.told
  have visited := sequence.visited sound (Nat.le_refl _)
  rw [List.take_length] at visited
  cases error? with
  | some error =>
    -- Whatever comes after the error is cut off.
    obtain ⟨rest, whole⟩ := @Search.visited_mono sources.references history.run.seed _ _ more
    rw [ModuleSources.breadthFirst, ← whole, List.map_append, visited, told.yielded]
    simp only [Option.toList_some, List.map_cons, List.map_nil, List.append_assoc, List.singleton_append]
    rw [throughError_error]
  | none =>
    -- A run that has ended without an error has completed.
    have exhausted : Exhausted history.run.seed (answeredModules history.answers) := by
      have ending := (told.settled ended resting).2
      generalize history.run.state = state at ending
      cases ending with
      | completed exhausted => exact exhausted
      | cancelled observed | deserted _ observed => cases live.symm.trans observed
    have modules : history.yielded = (answeredModules history.answers).map .ok := by simpa using told.yielded
    have all := ModuleSources.visited_all exhausted (visited.trans modules)
    rw [ModuleSources.breadthFirst, Search.after_of_empty all more, visited, told.throughError]

/-- A run that has answered often enough has yielded as much of the search. -/
theorem InSequence.enough (sequence : history.InSequence sources) (sound : history.Sound sources)
    (live : history.signals.isCancelled history.run.token = false) (resting : history.run.consumer = .resting)
    {visits : Nat} (many : visits ≤ history.answers.length) :
    sources.breadthFirst history.run.seed visits <+: history.yielded := by
  cases ended : history.run.state.hasEnded with
  | true => exact sequence.whole sound live ended resting visits
  | false =>
    -- Before the end every answer is a module.
    have yielded : history.yielded.length = history.answers.length := by
      have talking := sound.endings.talking ended
      rw [History.yielded, talking]
      simp [modulesOnly, List.filterMap_map]
    rw [sequence.yields sound]
    exact ModuleSources.breadthFirst_mono (by omega)

/-- What has been yielded was answered first, and then nothing. -/
theorem Told.answers_yielded {error? : Option ModuleFailure} {later : Nat}
    (told : history.Told sources error? later) :
    history.answers = history.yielded.map some ++ List.replicate later none := by
  rw [told.yielded]
  conv_lhs => rw [told.answers]
  cases error? <;> simp [modulesOnly, Function.comp_def]

/-- A run that has answered as many calls as another one has yielded no less, if both go through one search. -/
theorem InSequence.yielded_length_le {other : History} (sequence : history.InSequence sources)
    (sound : history.Sound sources) (live : history.signals.isCancelled history.run.token = false)
    (resting : history.run.consumer = .resting) (sequence' : other.InSequence sources) (sound' : other.Sound sources)
    (seed : other.run.seed = history.run.seed) (length : other.answers.length = history.answers.length) :
    other.yielded.length ≤ history.yielded.length := by
  obtain ⟨_, later, told⟩ := sound'.endings.told
  have answers := congrArg List.length told.answers_yielded
  simp only [List.length_append, List.length_map, List.length_replicate] at answers
  have many : other.yielded.length ≤ history.answers.length := by omega
  -- The run has answered as often, so it has yielded as much.
  have enough := sequence.enough sound live resting many
  rw [← seed, ← sequence'.yields sound'] at enough
  exact enough.length_le

/-- Two runs that read one module at a time from one seed answer their calls alike. -/
theorem InSequence.answers_eq {other : History} (sequence : history.InSequence sources)
    (sound : history.Sound sources) (live : history.signals.isCancelled history.run.token = false)
    (resting : history.run.consumer = .resting) (sequence' : other.InSequence sources) (sound' : other.Sound sources)
    (live' : other.signals.isCancelled other.run.token = false) (resting' : other.run.consumer = .resting)
    (seed : other.run.seed = history.run.seed) (length : other.answers.length = history.answers.length) :
    other.answers = history.answers := by
  -- Neither has yielded less than the other, and both yield the same search.
  have less := sequence.yielded_length_le sound live resting sequence' sound' seed length
  have more := sequence'.yielded_length_le sound' live' resting' sequence sound seed.symm length.symm
  have yielded : other.yielded = history.yielded := by
    rw [sequence.yields sound, sequence'.yields sound', seed, Nat.le_antisymm less more]
  obtain ⟨_, later, told⟩ := sound.endings.told
  obtain ⟨_, later', told'⟩ := sound'.endings.told
  -- What comes after the search are answers without anything, and there are equally many.
  have answers := told.answers_yielded
  have answers' := told'.answers_yielded
  rw [answers, answers', yielded] at length ⊢
  simp only [List.length_append, List.length_replicate] at length
  rw [Nat.add_left_cancel length]

/-- An uncancelled run that reads one module at a time yields a breadth-first search from the seed, up to the first
path that cannot be read. It can always go on to yield more of the search, and it has yielded the whole search when it
has ended. So each module follows one that refers to it, and distances from the seed never decrease, neither by the
references that the modules list nor, where it does not matter how paths are written, by all that can be read. -/
theorem yields_breadth_first {signals : Signals} {token : CancelToken} {seed : Path} {limit : Nat}
    {moves : List Move} (single : limit ≤ 1) (live : signals.isCancelled token = false)
    (own : token.own < signals.raised.length)
    (above : ∀ parent, token.parent = some parent → parent < signals.raised.length)
    (calm : ∀ other, .cancel other ∈ moves → other.own ≠ token.own ∧ token.parent ≠ some other.own)
    (played : (start signals token seed limit).play? sources moves = some last) :
    last.yielded = sources.breadthFirst seed last.yielded.length ∧
    (∀ visits, ∃ later, GoesOn sources last later ∧ sources.breadthFirst seed visits <+: later.yielded) ∧
    (last.run.state.hasEnded = true → last.run.consumer = .resting →
      ∀ visits, sources.breadthFirst seed visits <+: last.yielded) ∧
    FollowReferences seed (answeredModules last.answers) ∧
    InOrderOfDistance (.ofModules (answeredModules last.answers)) seed
      ((answeredModules last.answers).map (·.path)) ∧
    (sources.references.Consistent →
      InOrderOfDistance sources.references seed ((answeredModules last.answers).map (·.path))) := by
  obtain ⟨sound, same⟩ := sound_of_play? played
  have seeded : last.run.seed = seed := same.seed
  have going := live_of_calm live own above calm played
  have sequence := inSequence_of_play? single played going
  refine ⟨seeded ▸ sequence.yields sound, fun visits => ?_, fun ended resting visits => ?_, ?_, ?_,
    fun consistent => ?_⟩
  · obtain ⟨later, goesOn, resting, many⟩ := (steady_of_play? played).many_more visits
    obtain ⟨moves', quiet, played'⟩ := id goesOn
    -- Nobody cancels the token in the meantime.
    have whole : (start signals token seed limit).play? sources (moves ++ moves') = some later := by
      rw [play?_append, played]
      exact played'
    have calm' : ∀ other, .cancel other ∈ moves ++ moves' → other.own ≠ token.own ∧ token.parent ≠ some other.own := by
      intro other member
      exact calm other ((List.mem_append.mp member).resolve_right (quiet other))
    have going' := live_of_calm live own above calm' whole
    obtain ⟨sound', same'⟩ := sound_of_play? whole
    have seeded' : later.run.seed = seed := same'.seed
    refine ⟨later, goesOn, ?_⟩
    exact seeded' ▸ (inSequence_of_play? single whole going').enough sound' going' resting many
  · -- The rest is read off the search that the run has gone through.
    exact seeded ▸ sequence.whole sound going ended resting visits
  · exact seeded ▸ ModuleSources.followReferences_of_visited (sequence.modules sound)
  · exact seeded ▸ ModuleSources.inOrderOfDistance_ofModules (sequence.modules sound)
  · exact seeded ▸ ModuleSources.inOrderOfDistance_of_visited consistent (sequence.modules sound)

/-- A call for a module that one worker reads, after the coordinator has taken some steps. -/
def callAfter (steps : Nat) : List Move :=
  List.flatten [[.call, .act .consumer], List.replicate steps (.act .coordinator),
    List.replicate 5 (.act (.worker 0)), List.replicate 4 (.act .coordinator), [.act .consumer]]

/-- Three calls are answered with modules, and a fourth one with an error. -/
def threeModules : List Move :=
  callAfter 3 ++ callAfter 6 ++ callAfter 6 ++ callAfter 12 ++
    .act .coordinator :: List.replicate 3 (.act .consumer)

/-- Two modules that the first one refers to are answered in that order, and then a module of theirs is not there. -/
theorem yields_two_levels_first :
    let sources : ModuleSources := .ofGraph [(⟨['a']⟩, [⟨['b']⟩, ⟨['c']⟩, ⟨['b', '/']⟩]), (⟨['b']⟩, [⟨['a']⟩, ⟨['d']⟩]),
      (⟨['c']⟩, [⟨['d']⟩])] fun _ => .ok none
    ∃ last, (start ⟨[false]⟩ ⟨0, none⟩ ⟨['a']⟩ 1).play? sources threeModules = some last ∧
      last.run.state = .faulted ∧ (answeredModules last.answers).map (·.path) = [⟨['a']⟩, ⟨['b']⟩, ⟨['c']⟩] ∧
      last.yielded = sources.breadthFirst ⟨['a']⟩ 4 ∧
      InOrderOfDistance (.ofModules (answeredModules last.answers)) ⟨['a']⟩
        ((answeredModules last.answers).map (·.path)) ∧
      InOrderOfDistance sources.references ⟨['a']⟩ ((answeredModules last.answers).map (·.path)) := by
  intro sources
  have ran : ((start ⟨[false]⟩ ⟨0, none⟩ ⟨['a']⟩ 1).play? sources threeModules).any (fun last =>
      last.run.state = .faulted ∧ (answeredModules last.answers).map (·.path) = [⟨['a']⟩, ⟨['b']⟩, ⟨['c']⟩] ∧
      last.yielded.length = 4) = true := by
    decide +kernel
  obtain ⟨last, played, facts⟩ := (Option.any_eq_true ..).mp ran
  -- The fourth thing that is yielded is the error.
  obtain ⟨faulted, paths, four⟩ := of_decide_eq_true facts
  have order := yields_breadth_first (Nat.le_refl 1) rfl (by decide) (by simp)
    (by simp [threeModules, callAfter]) played
  rw [four] at order
  obtain ⟨search, _, _, _, listed, byPath⟩ := order
  exact ⟨last, played, faulted, paths, search, listed, byPath (ModuleSources.ofGraph_byPath _ _).consistent⟩

end History

end ModuleScope
