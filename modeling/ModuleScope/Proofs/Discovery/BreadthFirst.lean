import Mathlib.Data.Nat.Find
import ModuleScope.Proofs.Discovery.Reachable

/-! Breadth-first search: the order in which it visits what a seed leads to, and how far from the seed that is. -/

namespace ModuleScope

namespace ReferenceAnswers

variable {answers : ReferenceAnswers} {seed path other third : Path} {extra more count : Nat}

/-- The references of a path; where nothing is answered there are none. -/
def listed (answers : ReferenceAnswers) (path : Path) : List Path :=
  match answers path with
  | .ok references => references
  | .error _ => []

/-- The references of a path are what it refers to. -/
theorem mem_listed_iff : other ∈ answers.listed path ↔ answers.RefersTo path other := by
  unfold listed RefersTo
  cases answers path <;> simp

/-- The seed leads to the path, however that is written, by way of so many references. -/
inductive LeadsIn (answers : ReferenceAnswers) (seed : Path) : Nat → Path → Prop
  /-- The seed leads to itself. -/
  | here {path : Path} (same : seed.Same path) : LeadsIn answers seed 0 path
  /-- One more reference leads on. -/
  | next {count : Nat} {path reference other : Path} (leads : LeadsIn answers seed count path)
      (refers : answers.RefersTo path reference) (same : reference.Same other) :
      LeadsIn answers seed (count + 1) other

/-- How the path is written does not matter. -/
theorem LeadsIn.of_same (leads : answers.LeadsIn seed count path) (same : path.Same other) :
    answers.LeadsIn seed count other := by
  cases leads with
  | here first => exact .here (Path.same_trans first same)
  | next leads refers last => exact .next leads refers (Path.same_trans last same)

/-- So many references lead from the seed to the path, and no fewer do. -/
structure IsDistance (answers : ReferenceAnswers) (seed path : Path) (count : Nat) : Prop where
  /-- The seed leads to the path. -/
  leads : answers.LeadsIn seed count path
  /-- There is no shorter way. -/
  least : ∀ fewer, answers.LeadsIn seed fewer path → count ≤ fewer

/-- Every path that the seed leads to has a distance. -/
theorem exists_distance (leads : answers.LeadsIn seed count path) : ∃ least, answers.IsDistance seed path least := by
  classical
  -- There is a least number of references that lead to the path.
  have some : ∃ count, answers.LeadsIn seed count path := ⟨count, leads⟩
  exact ⟨Nat.find some, Nat.find_spec some, fun _ fewer => Nat.find_min' some fewer⟩

/-- The path is at most so many references further from the seed than the other one. -/
def NoFurther (answers : ReferenceAnswers) (seed : Path) (extra : Nat) (path other : Path) : Prop :=
  ∀ count, answers.LeadsIn seed count other → ∃ fewer ≤ count + extra, answers.LeadsIn seed fewer path

/-- What is further by some references than a path that is further by others is further by all of them at most. -/
theorem NoFurther.trans (first : answers.NoFurther seed extra path other)
    (second : answers.NoFurther seed more other third) : answers.NoFurther seed (extra + more) path third := by
  intro count leads
  -- The bounds add up along the way.
  obtain ⟨fewer, bound, leads⟩ := second count leads
  obtain ⟨least, bound', leads⟩ := first fewer leads
  exact ⟨least, by omega, leads⟩

/-- A reference leads one further at most. -/
theorem NoFurther.of_refersTo (refers : answers.RefersTo path other) : answers.NoFurther seed 1 other path :=
  fun count leads => ⟨count + 1, Nat.le_refl _, .next leads refers (Path.same_refl other)⟩

/-- A path that is no further than another one has no greater distance. -/
theorem NoFurther.distance_le {least least' : Nat} (near : answers.NoFurther seed 0 path other)
    (distance : answers.IsDistance seed path least) (distance' : answers.IsDistance seed other least') :
    least ≤ least' := by
  obtain ⟨fewer, bound, leads⟩ := near least' distance'.leads
  exact Nat.le_trans (distance.least fewer leads) bound

/-- Two ways of writing a path lead to the same references, however these are written. -/
def Consistent (answers : ReferenceAnswers) : Prop :=
  ∀ left right references references', Path.Same left right → answers left = .ok references →
    answers right = .ok references' → ∀ reference ∈ references, reference.IsAmong references'

/-- The references that modules list, each at the path of its module, however that is written. -/
def ofModules (modules : List FoundModule) : ReferenceAnswers := fun path =>
  match modules.find? fun module => decide (path.Same module.path) with
  | some module => .ok module.declared.references
  | none => .error (.notFound path)

/-- The first module at a path is found by each way of writing it. -/
theorem find?_module_same (modules : List FoundModule) (same : path.Same other) :
    (modules.find? fun module => decide (other.Same module.path)) =
      modules.find? fun module => decide (path.Same module.path) := by
  congr 1
  funext module
  exact decide_eq_decide.mpr ⟨Path.same_trans same, Path.same_trans (Path.same_symm same)⟩

/-- It does not matter for what modules list how their paths are written. -/
theorem consistent_ofModules (modules : List FoundModule) : (ofModules modules).Consistent := by
  intro left right references references' same answered answered' reference listed
  -- The module is found by the parts of the path, so either spelling finds the same one.
  rw [ofModules, find?_module_same modules same] at answered'
  rw [ofModules] at answered
  cases found : modules.find? fun module => decide (left.Same module.path) with
  | none =>
    rw [found] at answered
    cases answered
  | some module =>
    -- Both answers come from the same module.
    simp only [found, Except.ok.injEq] at answered answered'
    exact ⟨reference, answered' ▸ answered ▸ listed, Path.same_refl reference⟩

/-- The references of modules with different paths are those that each of them lists. -/
theorem ofModules_path {modules : List FoundModule} (differ : (modules.map (·.path)).Pairwise Path.Differs)
    {module : FoundModule} (member : module ∈ modules) :
    ofModules modules module.path = .ok module.declared.references := by
  induction modules with
  | nil => cases member
  | cons first rest ih =>
    obtain ⟨others, later⟩ := List.pairwise_cons.mp differ
    rcases List.mem_cons.mp member with rfl | member
    · -- The first module is the one that is asked for.
      simp [ofModules, Path.same_refl]
    · -- The first module has another path.
      have unlike : ¬module.path.Same first.path := fun same =>
        others module.path (List.mem_map_of_mem member) (Path.same_symm same)
      have found := ih later member
      simpa [ofModules, unlike] using found

end ReferenceAnswers

/-- A breadth-first search: what it has visited, and what it has met besides that. -/
structure Search where
  /-- The paths visited, first path first. -/
  visited : List Path
  /-- The paths met and not yet visited, oldest first. -/
  queue : List Path
deriving DecidableEq, Repr

namespace Search

/-- A search that has met nothing but its seed. -/
def start (seed : Path) : Search := ⟨[], [seed]⟩

/-- All paths that have been met, in order. -/
def met (search : Search) : List Path := search.visited ++ search.queue

/-- A path joins the queue unless it has been met before. -/
def meet (search : Search) (path : Path) : Search :=
  if search.met.any fun other => decide (path.Same other) then search
  else { search with queue := search.queue ++ [path] }

/-- The oldest path of the queue is visited, and then all that it refers to is met. -/
def visit (answers : ReferenceAnswers) (search : Search) : Search :=
  match search.queue with
  | [] => search
  | path :: rest => (answers.listed path).foldl meet ⟨search.visited ++ [path], rest⟩

/-- The search after so many visits. -/
def after (answers : ReferenceAnswers) (seed : Path) : Nat → Search
  | 0 => start seed
  | visits + 1 => (after answers seed visits).visit answers

variable {answers : ReferenceAnswers} {seed : Path} {search : Search} {visits : Nat}

/-- Of some paths just those join the queue that differ from each other and from all that have been met. -/
theorem foldl_meet (paths : List Path) (search : Search) :
    paths.foldl meet search =
      { search with queue := search.queue ++ (Run.selectUnseen search.met.reverse paths).1 } := by
  -- The paths that have been met are those that count as seen, last path first.
  induction paths generalizing search with
  | nil => simp [Run.selectUnseen]
  | cons path rest ih =>
    rw [List.foldl_cons, ih, meet, Run.selectUnseen, List.any_reverse]
    split
    · rfl
    · simp [met]

/-- What a visit leads to. -/
theorem visit_cons {path : Path} {rest : List Path} (queue : search.queue = path :: rest) :
    search.visit answers =
      ⟨search.visited ++ [path], rest ++ (Run.selectUnseen search.met.reverse (answers.listed path)).1⟩ := by
  rw [visit, queue]
  simp [foldl_meet, met, queue]

/-- The path of the visit joins those that have been visited. -/
theorem visited_visit_cons {path : Path} {rest : List Path} (queue : search.queue = path :: rest) :
    (search.visit answers).visited = search.visited ++ [path] := by
  rw [visit_cons queue]

/-- What is new among its references joins all that have been met. -/
theorem met_visit {path : Path} {rest : List Path} (queue : search.queue = path :: rest) :
    (search.visit answers).met =
      search.met ++ (Run.selectUnseen search.met.reverse (answers.listed path)).1 := by
  rw [visit_cons queue]
  simp [met, queue]

/-- What has been met in the end is what the selection counts as seen. -/
theorem met_visit_seen {path : Path} {rest : List Path} (queue : search.queue = path :: rest) :
    (search.visit answers).met = (Run.selectUnseen search.met.reverse (answers.listed path)).2.reverse := by
  rw [met_visit queue, Run.selectUnseen_seen]
  simp

/-- Nothing is left to visit in a search with an empty queue. -/
theorem visit_nil (queue : search.queue = []) : search.visit answers = search := by
  rw [visit, queue]

/-- What has been visited stays at its place. -/
theorem visited_visit : search.visited <+: (search.visit answers).visited := by
  cases queue : search.queue with
  | nil => simp [visit_nil queue]
  | cons path rest => simp [visit_cons queue]

/-- What was visited after some visits is the start of what is visited after more. -/
theorem visited_mono {more : Nat} (fewer : visits ≤ more) :
    (after answers seed visits).visited <+: (after answers seed more).visited := by
  induction fewer with
  | refl => exact List.prefix_refl _
  | step _ ih => exact ih.trans visited_visit

/-- A search that has visited everything stays as it is. -/
theorem after_of_empty {more : Nat} (empty : (after answers seed visits).queue = []) (fewer : visits ≤ more) :
    after answers seed more = after answers seed visits := by
  induction fewer with
  | refl => rfl
  | step _ ih => rw [after, ih, visit_nil empty]

/-- What is known of the paths that a search has met. -/
structure Explores (answers : ReferenceAnswers) (seed : Path) (search : Search) : Prop where
  /-- The seed has been met first. -/
  rooted : search.met.head? = some seed
  /-- No path has been met twice. -/
  differ : search.met.Pairwise Path.Differs
  /-- Every other path has been met by a reference from a path that was visited before. -/
  led : ∀ before path later, search.met = before ++ path :: later → before = [] ∧ path = seed ∨
    ∃ earlier ∈ before, earlier ∈ search.visited ∧ answers.RefersTo earlier path
  /-- All that is referred to from a path that was visited has been met. -/
  closed : ∀ path ∈ search.visited, ∀ reference, answers.RefersTo path reference → reference.IsAmong search.met
  /-- The seed leads to all of them. -/
  reached : ∀ path ∈ search.met, ∃ count, answers.LeadsIn seed count path

/-- At first only the seed has been met. -/
theorem explores_start (answers : ReferenceAnswers) (seed : Path) : Explores answers seed (start seed) where
  rooted := rfl
  differ := List.pairwise_singleton _ _
  -- Only the seed has been met, and nothing comes before it.
  led before path later split := by
    left
    cases before with
    | nil => exact ⟨rfl, (List.cons.inj split).1.symm⟩
    | cons head rest =>
      have short := congrArg List.length split
      simp [met, start] at short
  closed path visited := by cases visited
  reached path member := by
    rw [List.mem_singleton.mp member]
    exact ⟨0, .here (Path.same_refl seed)⟩

/-- Only what a path refers to can be new among its references. -/
theorem refersTo_of_fresh {seen : List Path} {path reference : Path}
    (fresh : reference ∈ (Run.selectUnseen seen (answers.listed path)).1) : answers.RefersTo path reference :=
  ReferenceAnswers.mem_listed_iff.mp ((Run.selectUnseen_sublist _ _).subset fresh)

/-- Whatever has been met after a visit has been met by a reference from a path that was visited before. -/
theorem Explores.led_visit {next other : Path} {rest before later : List Path} (explores : Explores answers seed search)
    (queue : search.queue = next :: rest) (split : (search.visit answers).met = before ++ other :: later) :
    before = [] ∧ other = seed ∨
      ∃ earlier ∈ before, earlier ∈ (search.visit answers).visited ∧ answers.RefersTo earlier other := by
  have member : next ∈ search.met := by simp [met, queue]
  rw [met_visit queue, List.append_eq_append_iff] at split
  rw [visited_visit_cons queue]
  rcases split with ⟨front, rfl, fresh⟩ | ⟨back, known, same⟩
  · -- The path is one of those that have just been met.
    have new : other ∈ (Run.selectUnseen search.met.reverse (answers.listed next)).1 := by simp [fresh]
    exact Or.inr ⟨next, List.mem_append_left _ member, by simp, refersTo_of_fresh new⟩
  · -- It was met before, or it is the first of those that are new.
    cases back with
    | nil =>
      have new : other ∈ (Run.selectUnseen search.met.reverse (answers.listed next)).1 := by
        rw [← List.nil_append (Run.selectUnseen _ _).1, ← same]
        exact List.mem_cons_self
      rw [List.append_nil] at known
      exact Or.inr ⟨next, known ▸ member, by simp, refersTo_of_fresh new⟩
    | cons head back =>
      cases (List.cons.inj same).1
      rcases explores.led before other back known with first | ⟨earlier, listed, past, refers⟩
      · exact Or.inl first
      · exact Or.inr ⟨earlier, listed, List.mem_append_left _ past, refers⟩

/-- A visit keeps what is known of the paths that have been met. -/
theorem Explores.visit (explores : Explores answers seed search) : Explores answers seed (search.visit answers) := by
  cases queue : search.queue with
  -- With an empty queue nothing is visited.
  | nil => rwa [visit_nil queue]
  | cons next rest =>
    have grown := @met_visit answers search next rest queue
    have seen := @met_visit_seen answers search next rest queue
    refine ⟨?_, ?_, fun before other later => explores.led_visit queue, ?_, ?_⟩
    · -- The seed stays in front.
      rw [grown, List.head?_append, explores.rooted]
      rfl
    · -- The selection leaves out all that has been met, last path first.
      rw [seen, List.pairwise_reverse]
      have before : search.met.reverse.Pairwise Path.Differs :=
        List.pairwise_reverse.mpr (explores.differ.imp Path.differs_symm)
      exact (Run.selectUnseen_differ before _).imp Path.differs_symm
    · -- The references of the path of this visit have all been met now.
      intro other past reference refers
      rw [visited_visit_cons queue] at past
      rcases List.mem_append.mp past with old | new
      · rw [grown]
        exact (explores.closed other old reference refers).mono fun _ known => List.mem_append_left _ known
      · rw [List.mem_singleton.mp new] at refers
        rw [seen]
        exact (Run.selectUnseen_covers (ReferenceAnswers.mem_listed_iff.mpr refers)).mono fun _ known =>
          List.mem_reverse.mpr known
    · intro other known
      rw [grown] at known
      rcases List.mem_append.mp known with old | new
      · exact explores.reached other old
      · -- One more reference leads from the path of the visit to what is new.
        obtain ⟨count, leads⟩ := explores.reached next (by simp [met, queue])
        exact ⟨count + 1, .next leads (refersTo_of_fresh new) (Path.same_refl other)⟩

/-- This is known of the search after any number of visits. -/
theorem explores_after (answers : ReferenceAnswers) (seed : Path) (visits : Nat) :
    Explores answers seed (after answers seed visits) := by
  induction visits with
  | zero => exact explores_start answers seed
  | succ visits ih => exact ih.visit

/-- The paths that have been met are ordered by their distances from the seed. -/
structure Levels (answers : ReferenceAnswers) (seed : Path) (search : Search) : Prop where
  /-- No path is further from the seed than one that has been met later. -/
  nearer : search.met.Pairwise (answers.NoFurther seed 0)
  /-- No path is further than one reference from what will be visited next. -/
  spread : ∀ next rest, search.queue = next :: rest → ∀ path ∈ search.met, answers.NoFurther seed 1 path next

/-- Whatever leads to a path that has not been met leads through the queue. -/
theorem Explores.frontier {count : Nat} {path : Path} (explores : Explores answers seed search)
    (consistent : answers.Consistent) (readable : ∀ path ∈ search.visited, ∃ references, answers path = .ok references)
    (leads : answers.LeadsIn seed count path) (unmet : ¬path.IsAmong search.met) :
    ∃ other ∈ search.queue, ∃ fewer < count, answers.LeadsIn seed fewer other := by
  -- Go back on the way from the seed to the last path that has been met.
  induction leads with
  -- The seed itself has always been met.
  | here same => exact absurd ⟨seed, List.mem_of_mem_head? explores.rooted, Path.same_symm same⟩ unmet
  | @next count path reference other leads refers same ih =>
    -- The path before the last reference has been met, or it is not reached otherwise than through the queue either.
    by_cases known : path.IsAmong search.met
    · obtain ⟨twin, member, alike⟩ := known
      rcases List.mem_append.mp member with past | queued
      · -- From a path that was visited the reference would have been met.
        obtain ⟨references, answered, listed⟩ := refers
        obtain ⟨references', answered'⟩ := readable twin past
        obtain ⟨written, listed', like⟩ :=
          consistent path twin references references' alike answered answered' reference listed
        obtain ⟨met, known, like'⟩ := explores.closed twin past written ⟨references', answered', listed'⟩
        exact absurd ⟨met, known, Path.same_trans (Path.same_symm same) (Path.same_trans like like')⟩ unmet
      · exact ⟨twin, queued, count, Nat.lt_succ_self count, leads.of_same alike⟩
    · obtain ⟨twin, queued, fewer, less, leads⟩ := ih known
      exact ⟨twin, queued, fewer, Nat.lt_succ_of_lt less, leads⟩

/-- At first there is only one distance. -/
theorem levels_start (answers : ReferenceAnswers) (seed : Path) : Levels answers seed (start seed) where
  nearer := List.pairwise_singleton _ _
  -- The seed is all there is in the queue.
  spread next rest queue path member := by
    have first : next = seed := (List.cons.inj queue).1.symm
    have only : path = seed := List.mem_singleton.mp member
    rw [first, only]
    exact fun count leads => ⟨count, Nat.le_succ count, leads⟩

/-- The path of a visit is nearer to the seed than whatever has not been met before. -/
theorem Levels.ahead {next fresh : Path} {rest : List Path} {count : Nat} (levels : Levels answers seed search)
    (explores : Explores answers seed search) (consistent : answers.Consistent)
    (readable : ∀ path ∈ search.visited, ∃ references, answers path = .ok references)
    (queue : search.queue = next :: rest)
    (new : fresh ∈ (Run.selectUnseen search.met.reverse (answers.listed next)).1)
    (leads : answers.LeadsIn seed count fresh) : ∃ fewer < count, answers.LeadsIn seed fewer next := by
  have differ := explores.visit.differ
  rw [met_visit queue, List.pairwise_append] at differ
  -- What is new differs from all that had been met.
  have unmet : ¬fresh.IsAmong search.met := by
    intro known
    obtain ⟨other, member, same⟩ := known
    exact differ.2.2 other member fresh new (Path.same_symm same)
  obtain ⟨other, queued, fewer, less, leads⟩ := explores.frontier consistent readable leads unmet
  -- No path of the queue is nearer than its first one.
  rw [queue] at queued
  rcases List.mem_cons.mp queued with rfl | later
  · exact ⟨fewer, less, leads⟩
  · have ordered : (next :: rest).Pairwise (answers.NoFurther seed 0) :=
      queue ▸ (List.pairwise_append.mp levels.nearer).2.1
    obtain ⟨least, bound, leads⟩ := (List.pairwise_cons.mp ordered).1 other later fewer leads
    exact ⟨least, by omega, leads⟩

/-- A visit keeps the paths in order: what is new is one reference further than the path that is visited. -/
theorem Levels.visit (levels : Levels answers seed search) (explores : Explores answers seed search)
    (consistent : answers.Consistent)
    (readable : ∀ path ∈ search.visited, ∃ references, answers path = .ok references) :
    Levels answers seed (search.visit answers) := by
  cases queue : search.queue with
  | nil => rwa [visit_nil queue]
  | cons path rest =>
    have grown := @met_visit answers search path rest queue
    have onward : ∀ fresh ∈ (Run.selectUnseen search.met.reverse (answers.listed path)).1,
        answers.NoFurther seed 1 fresh path := fun fresh new => .of_refersTo (refersTo_of_fresh new)
    have nearer : (search.visit answers).met.Pairwise (answers.NoFurther seed 0) := by
      rw [grown, List.pairwise_append]
      -- What is new comes behind all that had been met, and is no nearer than any of it.
      refine ⟨levels.nearer, List.pairwise_of_forall_mem_list ?_, ?_⟩
      · intro fresh new other new' count leads
        obtain ⟨fewer, less, leads⟩ := levels.ahead explores consistent readable queue new' leads
        obtain ⟨least, bound, leads⟩ := onward fresh new fewer leads
        exact ⟨least, by omega, leads⟩
      · intro known member fresh new count leads
        obtain ⟨fewer, less, leads⟩ := levels.ahead explores consistent readable queue new leads
        obtain ⟨least, bound, leads⟩ := levels.spread path rest queue known member fewer leads
        exact ⟨least, by omega, leads⟩
    refine ⟨nearer, ?_⟩
    intro next rest' queue' other member
    -- What comes next is no nearer to the seed than the path that has been visited.
    have later : answers.NoFurther seed 0 path next := by
      rw [visit_cons queue] at queue'
      have order := nearer
      rw [visit_cons queue, met, queue', List.append_assoc] at order
      exact (List.pairwise_cons.mp (List.pairwise_append.mp order).2.1).1 next List.mem_cons_self
    rw [grown] at member
    -- What had been met is at most one reference further than the last path, and so is what is new.
    rcases List.mem_append.mp member with known | fresh
    · exact (levels.spread path rest queue other known).trans later
    · exact (onward other fresh).trans later

/-- As long as all that was visited could be read, the paths that have been met are in order. -/
theorem levels_after (consistent : answers.Consistent) (seed : Path) (visits : Nat)
    (readable : ∀ path ∈ (after answers seed visits).visited, ∃ references, answers path = .ok references) :
    Levels answers seed (after answers seed visits) := by
  induction visits with
  | zero => exact levels_start answers seed
  | succ visits ih =>
    -- What an earlier visit went to is among what has been visited.
    have earlier : ∀ path ∈ (after answers seed visits).visited, ∃ references, answers path = .ok references :=
      fun path past => readable path (visited_visit.subset past)
    exact (ih earlier).visit (explores_after answers seed visits) consistent earlier

/-- A search asks for nothing but the references of what it visits. -/
theorem after_congr {answers' : ReferenceAnswers}
    (alike : ∀ path ∈ (after answers seed visits).visited, answers'.listed path = answers.listed path) :
    after answers' seed visits = after answers seed visits := by
  induction visits with
  | zero => rfl
  | succ visits ih =>
    have same := ih fun path past => alike path (visited_visit.subset past)
    rw [after, same, after]
    cases queue : (after answers seed visits).queue with
    -- With an empty queue both stay as they are.
    | nil => rw [visit_nil queue, visit_nil queue]
    | cons path rest =>
      -- Only the path of this visit is asked for now.
      have here : path ∈ (after answers seed (visits + 1)).visited := by
        rw [after, visited_visit_cons queue]
        exact List.mem_append_right _ (List.mem_singleton_self path)
      rw [visit_cons queue, visit_cons queue, alike path here]

end Search

/-- Each path has a distance from the seed, and none is further away than a later one. -/
def InOrderOfDistance (answers : ReferenceAnswers) (seed : Path) (paths : List Path) : Prop :=
  (∀ path ∈ paths, ∃ least, answers.IsDistance seed path least) ∧
    paths.Pairwise fun path later => ∀ least least', answers.IsDistance seed path least →
      answers.IsDistance seed later least' → least ≤ least'

/-- What a search visits is in the order of the distances as long as it could be read. -/
theorem Search.inOrderOfDistance_visited {answers : ReferenceAnswers} {seed : Path} {visits : Nat}
    (consistent : answers.Consistent)
    (readable : ∀ path ∈ (after answers seed visits).visited, ∃ references, answers path = .ok references) :
    InOrderOfDistance answers seed (after answers seed visits).visited := by
  -- What was visited has been met in the order of the distances.
  have ordered := (List.pairwise_append.mp (levels_after consistent seed visits readable).nearer).1
  refine ⟨fun path member => ?_, ordered.imp fun near least least' => near.distance_le⟩
  -- A path that was met has a distance, as references lead to it.
  obtain ⟨count, leads⟩ := (explores_after answers seed visits).reached path (List.mem_append_left _ member)
  exact ReferenceAnswers.exists_distance leads

end ModuleScope
