import ModuleScope.Filter.Rule

/-! Filters: the rules that say what is covered, and the patterns that say what is excluded. -/

namespace ModuleScope

/-- An unchanging set of rules and patterns, each kind in the order in which they were added. -/
structure Filter where
  /-- The rules that say what is covered. -/
  coverage : List CoverageRule := []
  /-- The patterns of excluded attributes. -/
  attributes : List Pattern := []
  /-- The patterns of excluded files. -/
  files : List Pattern := []

namespace Filter

/-- Whether an assembly is covered: all rules have to agree, and there has to be one. -/
def coversAssembly (filter : Filter) (name : String) : Bool :=
  !filter.coverage.isEmpty && filter.coverage.all (·.coversAssembly name)

/-- Whether a class is covered: all rules have to agree, and there has to be one. -/
def coversClass (filter : Filter) (name : String) : Bool :=
  !filter.coverage.isEmpty && filter.coverage.all (·.coversClass name)

/-- Whether a class of an assembly is covered. -/
def covers (filter : Filter) (assembly className : String) : Bool :=
  -- Each half is decided on its own.
  filter.coversAssembly assembly && filter.coversClass className

/-- Whether an attribute is excluded: one pattern is enough. -/
def excludesAttribute (filter : Filter) (name : String) : Bool :=
  filter.attributes.any (·.isMatch name)

/-- Whether a file is excluded: one pattern is enough. -/
def excludesFile (filter : Filter) (name : String) : Bool :=
  filter.files.any (·.isMatch name)

end Filter

end ModuleScope
