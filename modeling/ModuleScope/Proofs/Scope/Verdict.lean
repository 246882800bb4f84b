import ModuleScope.Proofs.Path.FileName
import ModuleScope.Scope.Verdict

/-! What a verdict says of a module: its file decides, by its name and by its name without the last extension. -/

namespace ModuleScope

variable {filter : Filter} {module : FoundModule} {name : List Char}

namespace FoundModule

/-- A module has the name of its file. -/
theorem name_of_endsWith (ends : module.path.EndsWith name) : module.name = name := by
  rw [FoundModule.name, Path.fileName?_eq_some.mpr ends, Option.getD_some]

/-- The name for coverage is that of the file without its last extension. -/
theorem assemblyName_of_endsWith (ends : module.path.EndsWith name) : module.assemblyName = Path.stem name := by
  -- The name is taken for a path of its own before it is cut.
  rw [assemblyName, name_of_endsWith ends, Path.fileName?_eq_some.mpr ends.alone]

end FoundModule

/-- A file is excluded unless no pattern matches its name. -/
theorem Filter.excludesFile_eq_false {text : String} :
    filter.excludesFile text = false ↔ ∀ pattern ∈ filter.files, pattern.isMatch text = false := by
  rw [Filter.excludesFile, List.any_eq_false]
  simp only [Bool.not_eq_true]

/-- An assembly is covered if there is a rule and all rules agree. -/
theorem Filter.coversAssembly_iff {text : String} :
    filter.coversAssembly text = true ↔
      filter.coverage ≠ [] ∧ ∀ rule ∈ filter.coverage, rule.coversAssembly text = true := by
  rw [Filter.coversAssembly, Bool.and_eq_true, List.all_eq_true, Bool.not_eq_true', List.isEmpty_eq_false_iff]

/-- The verdict of a filter on a module with such a file name, which is the assembly's without its last extension. -/
structure Judged (filter : Filter) (module : FoundModule) (name assembly : List Char) : Prop where
  /-- The module's path ends with the name. -/
  ends : module.path.EndsWith name
  /-- The assembly is what is left of it. -/
  cut : Path.WithoutExtension name assembly
  /-- The verdict tells of just these. -/
  shown : (Verdict.evaluate filter module).name = name ∧ (Verdict.evaluate filter module).assembly = assembly ∧
    (Verdict.evaluate filter module).path = module.path ∧ (Verdict.evaluate filter module).digest = module.digest
  /-- The module is in scope if its file is not excluded, there is a rule, and all rules agree on the assembly. -/
  inScope : (Verdict.evaluate filter module).inScope = true ↔
    (∀ pattern ∈ filter.files, pattern.isMatch (String.ofList name) = false) ∧ filter.coverage ≠ [] ∧
      ∀ rule ∈ filter.coverage, rule.coversAssembly (String.ofList assembly) = true

/-- A module is judged by its file name. -/
theorem judged_of_endsWith (filter : Filter) (ends : module.path.EndsWith name) :
    Judged filter module name (Path.stem name) where
  ends := ends
  cut := Path.stem_withoutExtension name
  shown := ⟨module.name_of_endsWith ends, module.assemblyName_of_endsWith ends, rfl, rfl⟩
  inScope := by
    rw [← Filter.excludesFile_eq_false, ← Filter.coversAssembly_iff, Verdict.inScope, Verdict.evaluate,
      module.name_of_endsWith ends, module.assemblyName_of_endsWith ends]
    -- Whether the file is excluded is asked first.
    cases filter.excludesFile (String.ofList name) <;> cases filter.coversAssembly (String.ofList (Path.stem name)) <;>
      simp

/-- A module is judged in one way. -/
theorem Judged.unique {assembly name' assembly' : List Char} (one : Judged filter module name assembly)
    (also : Judged filter module name' assembly') : name = name' ∧ assembly = assembly' := by
  obtain rfl : name = name' := one.shown.1.symm.trans also.shown.1
  exact ⟨rfl, one.cut.unique also.cut⟩

end ModuleScope
