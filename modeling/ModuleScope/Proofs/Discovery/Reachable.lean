import Mathlib.Logic.Relation
import ModuleScope.Module.Found
import ModuleScope.Proofs.Discovery.Selection

/-! Which paths a seed leads to, and when some modules are all that it leads to. -/

namespace ModuleScope

/-- What is answered when the references of a path are asked for. -/
abbrev ReferenceAnswers := Path → Except ModuleFailure (List Path)

namespace ReferenceAnswers

/-- The second path is among the references of the first. -/
def RefersTo (answers : ReferenceAnswers) (path reference : Path) : Prop :=
  ∃ references, answers path = .ok references ∧ reference ∈ references

/-- The seed leads to the path by way of references. -/
def Reaches (answers : ReferenceAnswers) (seed path : Path) : Prop :=
  -- The seed leads to itself.
  Relation.ReflTransGen answers.RefersTo seed path

/-- How a path is written does not matter for the answer. -/
def ByPath (answers : ReferenceAnswers) : Prop :=
  ∀ left right references, Path.Same left right → answers left = .ok references →
    answers right = .ok references

variable {answers : ReferenceAnswers}

/-- How a path is written does not matter if the seed leads to it in more than one way: the same references are
answered each time, however these are written. -/
def AlikeFrom (answers : ReferenceAnswers) (seed : Path) : Prop :=
  ∀ left right references, answers.Reaches seed left → answers.Reaches seed right → Path.Same left right →
    answers left = .ok references →
      ∃ references', answers right = .ok references' ∧ ∀ reference ∈ references, reference.IsAmong references'

/-- If it never matters how a path is written, it does not matter from any seed. -/
theorem ByPath.alikeFrom (byPath : answers.ByPath) (seed : Path) : answers.AlikeFrom seed := by
  intro left right references _ _ same answered
  exact ⟨references, byPath left right references same answered,
    fun reference listed => ⟨reference, listed, Path.same_refl reference⟩⟩

/-- It does not matter from a seed that leads to each path in one way of writing it. -/
theorem alikeFrom_of_spelt_once {seed : Path}
    (once : ∀ left right, answers.Reaches seed left → answers.Reaches seed right → Path.Same left right →
      left = right) :
    answers.AlikeFrom seed := by
  intro left right references reached reached' same answered
  obtain rfl := once left right reached reached' same
  exact ⟨references, answered, fun reference listed => ⟨reference, listed, Path.same_refl reference⟩⟩

end ReferenceAnswers

namespace ModuleSources

/-- The references that the reader finds at a path. -/
def readReferences (sources : ModuleSources) : ReferenceAnswers := fun path =>
  (sources.read path).map (·.references)

/-- The references of a path whose module can be read, hashed and dated. -/
def references (sources : ModuleSources) : ReferenceAnswers := fun path =>
  (sources.describe path).map (·.declared.references)

/-- A module that was found carries the path that was asked for and what was answered about it. -/
theorem describe_ok {sources : ModuleSources} {path : Path} {module : FoundModule}
    (described : sources.describe path = .ok module) :
    module.path = path ∧ sources.read path = .ok module.declared ∧
      sources.digest path = .ok module.digest ∧ sources.modified path = .ok module.modified := by
  -- All three questions were answered.
  unfold describe at described
  cases read : sources.read path with
  | error error => simp [read, Bind.bind, Except.bind] at described
  | ok declared =>
    cases digest : sources.digest path with
    | error error => simp [read, digest, Bind.bind, Except.bind] at described
    | ok value =>
      cases modified : sources.modified path with
      | error error => simp [read, digest, modified, Bind.bind, Except.bind] at described
      | ok time =>
        simp only [read, digest, modified, Bind.bind, Except.bind, Except.ok.injEq] at described
        subst described
        exact ⟨rfl, rfl, rfl, rfl⟩

/-- A module that was found is described at its own path. -/
theorem describe_path {sources : ModuleSources} {path : Path} {module : FoundModule}
    (described : sources.describe path = .ok module) :
    sources.describe module.path = .ok module := by
  rw [(describe_ok described).1, described]

/-- The references of a module that was found are the ones that the reader finds. -/
theorem references_of_describe {sources : ModuleSources} {path : Path} {module : FoundModule}
    (described : sources.describe path = .ok module) :
    sources.references path = .ok module.declared.references ∧
      sources.readReferences path = .ok module.declared.references := by
  -- The reader is asked first, and its answer is kept.
  constructor
  · simp [references, described, Except.map]
  · simp [readReferences, (describe_ok described).2.1, Except.map]

/-- How a path is written does not matter for what the reader and the hasher find there. -/
structure ByPath (sources : ModuleSources) : Prop where
  /-- The reader finds the same declaration. -/
  read : ∀ left right declared, Path.Same left right → sources.read left = .ok declared →
    sources.read right = .ok declared
  /-- The hasher finds the same digest. -/
  digest : ∀ left right digest, Path.Same left right → sources.digest left = .ok digest →
    sources.digest right = .ok digest

/-- How a path is written does not matter for the references found there either. -/
theorem ByPath.readReferences {sources : ModuleSources} (byPath : sources.ByPath) :
    sources.readReferences.ByPath := by
  intro left right references same answered
  cases read : sources.read left with
  -- Nothing was answered.
  | error error => simp [ModuleSources.readReferences, read, Except.map] at answered
  | ok declared =>
    simpa [ModuleSources.readReferences, read, byPath.read left right declared same read]
      using answered

/-- What can be reached through modules that can be read in full can be reached by reading alone. -/
theorem reaches_readReferences {sources : ModuleSources} {seed path : Path}
    (reached : sources.references.Reaches seed path) : sources.readReferences.Reaches seed path := by
  -- Each module on the way has been read.
  refine Relation.ReflTransGen.mono (fun path reference refers => ?_) _ _ reached
  obtain ⟨listed, given, member⟩ := refers
  cases described : sources.describe path with
  | error error => simp [references, described, Except.map] at given
  | ok module =>
    have both := references_of_describe described
    rw [both.1, Except.ok.injEq] at given
    exact ⟨listed, given ▸ both.2, member⟩

end ModuleSources

/-- The paths that are asked for: the seed, and what some modules refer to. -/
def Wanted (seed : Path) (modules : List FoundModule) (path : Path) : Prop :=
  path = seed ∨ ∃ module ∈ modules, path ∈ module.declared.references

/-- More modules ask for more paths. -/
theorem Wanted.mono {seed path : Path} {modules more : List FoundModule}
    (wanted : Wanted seed modules path) (grow : ∀ module ∈ modules, module ∈ more) :
    Wanted seed more path :=
  wanted.imp_right fun ⟨module, member, listed⟩ => ⟨module, grow module member, listed⟩

/-- All paths that are asked for are paths of the modules themselves. -/
def Exhausted (seed : Path) (modules : List FoundModule) : Prop :=
  ∀ path, Wanted seed modules path → path.IsAmong (modules.map (·.path))

/-- Modules that ask for nothing else are all that the seed leads to. -/
theorem Exhausted.reaches {answers : ReferenceAnswers} {seed path : Path}
    {modules : List FoundModule} (exhausted : Exhausted seed modules) (alike : answers.AlikeFrom seed)
    (answered : ∀ module ∈ modules, answers module.path = .ok module.declared.references)
    (found : ∀ module ∈ modules, answers.Reaches seed module.path)
    (reached : answers.Reaches seed path) : path.IsAmong (modules.map (·.path)) := by
  -- The induction follows the references from the seed on.
  induction reached with
  | refl => exact exhausted seed (Or.inl rfl)
  | @tail path reference before refers ih =>
    obtain ⟨other, member, same⟩ := ih
    obtain ⟨module, listed, rfl⟩ := List.mem_map.mp member
    -- The module that stands for the path before lists the reference too, in some way of writing it.
    obtain ⟨references, given, inside⟩ := refers
    obtain ⟨references', given', among⟩ := alike _ _ _ before (found module listed) same given
    rw [answered module listed, Except.ok.injEq] at given'
    obtain ⟨written, inside', like⟩ := among reference inside
    obtain ⟨last, member', like'⟩ := exhausted written (Or.inr ⟨module, listed, given' ▸ inside'⟩)
    exact ⟨last, member', Path.same_trans like like'⟩

end ModuleScope
