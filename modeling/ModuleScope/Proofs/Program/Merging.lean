import Mathlib.Data.List.Forall2
import ModuleScope.Program.Plan
import ModuleScope.Proofs.Filter.Agreement
import ModuleScope.Scope.Verdict

/-! The filter for a configuration and a command line: all their texts are added one after the other, and what the
command line adds can only take modules out of scope. -/

namespace ModuleScope

variable {entry : RuleEntry} {part : FilterPart} {error : RuleError}

namespace RuleEntry

/-- The text is added as this rule or pattern, whatever has been added before it. -/
def Becomes (entry : RuleEntry) (part : FilterPart) : Prop :=
  ∀ draft : FilterDraft, draft.add entry = .ok (draft.append part)

/-- The text is refused for this reason, whatever has been added before it. -/
def RefusedFor (entry : RuleEntry) (error : RuleError) : Prop :=
  ∀ draft : FilterDraft, draft.add entry = .error error

/-- What a text becomes is found out without looking at the draft. -/
theorem becomes_iff : entry.Becomes part ↔ FilterPart.ofEntry entry = .ok part := by
  constructor
  · intro becomes
    obtain ⟨found, made, same⟩ := bind_eq_ok (becomes {})
    -- What has been added to an empty draft tells what it was.
    have whole : ({} : FilterDraft).append found = ({} : FilterDraft).append part := Except.ok.inj same
    cases found <;> cases part <;> simp_all [FilterDraft.append]
  · intro made draft
    rw [FilterDraft.add, made]
    rfl

/-- For what reason a text is refused is found out without looking at the draft. -/
theorem refusedFor_iff : entry.RefusedFor error ↔ FilterPart.ofEntry entry = .error error := by
  constructor
  · intro refused
    have outcome := refused {}
    cases made : FilterPart.ofEntry entry with
    | error reason =>
      rw [FilterDraft.add, made] at outcome
      cases outcome
      rfl
    | ok part =>
      rw [FilterDraft.add, made] at outcome
      cases outcome
  · intro made draft
    rw [FilterDraft.add, made]
    rfl

end RuleEntry

namespace FilterDraft

variable {draft next : FilterDraft} {entries : List RuleEntry}

/-- The first of some entries at which something else happens than before is the head or one of the rest. -/
theorem exists_first_cons {α : Type} {before here : α → Prop} {head : α} {rest : List α} :
    (∃ front entry later, head :: rest = front ++ entry :: later ∧ (∀ earlier ∈ front, before earlier) ∧ here entry) ↔
      here head ∨ before head ∧
        ∃ front entry later, rest = front ++ entry :: later ∧ (∀ earlier ∈ front, before earlier) ∧ here entry := by
  constructor
  · rintro ⟨front, entry, later, split, each, found⟩
    cases front with
    | nil =>
      obtain ⟨rfl, rfl⟩ := List.cons.inj split
      exact .inl found
    | cons first front =>
      -- The first entry comes before the one that is looked for.
      obtain ⟨rfl, rfl⟩ := List.cons.inj split
      rw [List.forall_mem_cons] at each
      exact .inr ⟨each.1, front, entry, later, rfl, each.2, found⟩
  · rintro (found | ⟨passed, front, entry, later, rfl, each, found⟩)
    · exact ⟨[], head, rest, rfl, List.forall_mem_nil _, found⟩
    · exact ⟨head :: front, entry, later, rfl, List.forall_mem_cons.mpr ⟨passed, each⟩, found⟩

/-- Adding several texts fails at the first that is refused, and for that reason. -/
theorem addAll_eq_error :
    draft.addAll entries = .error error ↔
      ∃ before entry later, entries = before ++ entry :: later ∧ (∀ earlier ∈ before, ∃ part, earlier.Becomes part) ∧
        entry.RefusedFor error := by
  induction entries generalizing draft with
  | nil =>
    constructor
    · -- Without texts nothing is refused.
      intro failed
      cases failed
    · rintro ⟨before, entry, later, split, _⟩
      exact absurd split (by simp)
  | cons head rest ih =>
    rw [addAll_cons, exists_first_cons, RuleEntry.refusedFor_iff]
    cases made : FilterPart.ofEntry head with
    | error reason =>
      -- The very first text is refused, so that no other one is looked at.
      have none : ¬∃ part, head.Becomes part := by
        simp [RuleEntry.becomes_iff, made]
      rw [RuleEntry.refusedFor_iff.mpr made draft]
      simp [none, Bind.bind, Except.bind]
    | ok part =>
      -- The first text is added, so the refused one is among the others.
      have becomes := RuleEntry.becomes_iff.mpr made
      rw [becomes draft, ok_bind, ih, and_iff_right ⟨part, becomes⟩]
      simp

/-- Texts that are all rules or patterns become one each, in their order, also if only those of one kind are looked
at. -/
theorem forall₂_becomes (target : RuleTarget) (each : ∀ entry ∈ entries, ∃ part, FilterPart.ofEntry entry = .ok part) :
    List.Forall₂ RuleEntry.Becomes (entries.filter (·.target = target))
      ((entries.filterMap RuleEntry.part?).filter (·.target = target)) := by
  induction entries with
  | nil => exact .nil
  | cons entry rest ih =>
    rw [List.forall_mem_cons] at each
    obtain ⟨⟨part, made⟩, others⟩ := each
    have kind : part.target = entry.target := FilterPart.ofEntry_target made
    rw [List.filterMap_cons_some (RuleEntry.part?_eq_some.mpr made)]
    -- A text and what it becomes are of the same kind, so both are kept or neither is.
    by_cases same : entry.target = target
    · rw [List.filter_cons_of_pos (by simpa using same), List.filter_cons_of_pos (by simpa [kind] using same)]
      exact .cons (RuleEntry.becomes_iff.mpr made) (ih others)
    · rw [List.filter_cons_of_neg (by simpa using same), List.filter_cons_of_neg (by simpa [kind] using same)]
      exact ih others

/-- A draft that several texts were added to holds one rule or pattern for each, in their order. -/
theorem collection_of_addAll (taken : addAll {} entries = .ok draft) (target : RuleTarget) :
    List.Forall₂ RuleEntry.Becomes (entries.filter (·.target = target)) (draft.filter.collection target) := by
  -- The draft starts empty.
  have none : ({} : FilterDraft).filter.collection target = [] := by cases target <;> rfl
  rw [collection_addAll taken, none, List.nil_append]
  exact forall₂_becomes target (addAll_taken_iff.mp ⟨draft, taken⟩)

/-- With more texts a draft holds more. -/
theorem within_of_addAll {more : List RuleEntry} (taken : addAll {} entries = .ok draft)
    (taken' : addAll {} more = .ok next) (subset : entries ⊆ more) : draft.filter.Within next.filter := by
  intro target part member
  rw [collection_addAll taken, List.mem_append, List.mem_filter, List.mem_filterMap] at member
  rw [collection_addAll taken', List.mem_append, List.mem_filter, List.mem_filterMap]
  -- Both drafts have been empty before.
  rcases member with before | ⟨⟨entry, inside, found⟩, kind⟩
  · cases target <;> cases before
  · exact .inr ⟨⟨entry, subset inside, found⟩, kind⟩

end FilterDraft

namespace Config

variable (config : Config) (arguments : CommandArguments)

/-- The default rules, if the configuration wants them and the command line does not object. -/
def defaultsWith : List RuleEntry :=
  if config.filters.defaults ∧ ¬arguments.noDefaultFilters then defaultRules else []

/-- The texts of a configuration and a command line in the order in which they are added. -/
def textsWith : List RuleEntry :=
  -- The command line has wildcards only, which come after those of the configuration.
  config.filters.coverage.map (⟨.coverage, .wildcard, ·⟩) ++ arguments.filters.map (⟨.coverage, .wildcard, ·⟩) ++
    config.filters.regexCoverage.map (⟨.coverage, .regex, ·⟩) ++
    config.filters.attributes.map (⟨.attributes, .wildcard, ·⟩) ++
    arguments.excludeByAttribute.map (⟨.attributes, .wildcard, ·⟩) ++
    config.filters.regexAttributes.map (⟨.attributes, .regex, ·⟩) ++
    config.filters.files.map (⟨.files, .wildcard, ·⟩) ++ arguments.excludeByFile.map (⟨.files, .wildcard, ·⟩) ++
    config.filters.regexFiles.map (⟨.files, .regex, ·⟩)

/-- The configuration by itself leads to a coverage rule: to a default rule or to one of its own. -/
def GivesRule : Prop :=
  (config.filters.defaults = true ∧ arguments.noDefaultFilters = false) ∨ config.filters.coverage ≠ [] ∨
    config.filters.regexCoverage ≠ []

/-- The texts of the merged configuration are the default rules and those of both sources. -/
theorem entries_merge :
    (config.merge arguments).filters.entries = config.defaultsWith arguments ++ config.textsWith arguments := by
  cases on : config.filters.defaults <;> cases off : arguments.noDefaultFilters <;>
    simp [FilterSettings.entries, merge, defaultsWith, textsWith, on, off, List.append_assoc]

/-- The default rules are never refused. -/
theorem addAll_defaultsWith : ∃ draft, FilterDraft.addAll {} (config.defaultsWith arguments) = .ok draft := by
  unfold defaultsWith
  split
  · exact ⟨_, FilterDraft.addDefaults_eq {}⟩
  · exact ⟨{}, rfl⟩

/-- The draft of the merged configuration is made of these texts. -/
theorem ofSettings_merge :
    FilterDraft.ofSettings (config.merge arguments).filters =
      FilterDraft.addAll {} (config.defaultsWith arguments ++ config.textsWith arguments) := by
  rw [FilterDraft.ofSettings, entries_merge]

variable {config arguments}

/-- A configuration that gives a rule by itself has the text of one. -/
theorem GivesRule.exists_entry (gives : config.GivesRule arguments) :
    ∃ entry ∈ config.defaultsWith arguments ++ config.textsWith arguments, entry.target = .coverage := by
  rcases gives with ⟨on, off⟩ | some | some
  · -- The text of the first default rule is among them.
    refine ⟨⟨.coverage, .wildcard, "-[mscorlib]*"⟩, List.mem_append_left _ ?_, rfl⟩
    simp [defaultsWith, on, off, defaultRules]
  · -- So is that of the first wildcard rule of the configuration.
    obtain ⟨text, rest, split⟩ := List.exists_cons_of_ne_nil some
    exact ⟨⟨.coverage, .wildcard, text⟩, by simp [textsWith, split], rfl⟩
  · -- So is that of the first regex rule.
    obtain ⟨text, rest, split⟩ := List.exists_cons_of_ne_nil some
    exact ⟨⟨.coverage, .regex, text⟩, by simp [textsWith, split], rfl⟩

end Config

/-- The one command line has all rules and exclusions of the other one, and it treats the default rules alike. -/
structure CommandArguments.Extends (arguments fewer : CommandArguments) : Prop where
  /-- Both want the default rules, or neither does. -/
  defaults : arguments.noDefaultFilters = fewer.noDefaultFilters
  /-- The coverage rules are there. -/
  filters : fewer.filters ⊆ arguments.filters
  /-- The excluded attributes are there. -/
  attributes : fewer.excludeByAttribute ⊆ arguments.excludeByAttribute
  /-- The excluded files are there. -/
  files : fewer.excludeByFile ⊆ arguments.excludeByFile

/-- A command line that extends another one leads to all of its texts. -/
theorem CommandArguments.Extends.subset {arguments fewer : CommandArguments} (longer : arguments.Extends fewer)
    (config : Config) :
    config.defaultsWith fewer ++ config.textsWith fewer ⊆
      config.defaultsWith arguments ++ config.textsWith arguments := by
  obtain ⟨defaults, filters, attributes, files⟩ := longer
  -- The default rules are wanted by both or by neither.
  have same : config.defaultsWith fewer = config.defaultsWith arguments := by
    rw [Config.defaultsWith, Config.defaultsWith, defaults]
  rw [same]
  refine List.append_subset.mpr ⟨List.subset_append_left _ _, fun entry member => List.mem_append_right _ ?_⟩
  simp only [Config.textsWith, List.mem_append, List.mem_map] at member ⊢
  -- Only the three lists of the command line have grown.
  grind

/-- A module is in scope if its file is not excluded and its assembly is covered. -/
theorem Verdict.inScope_evaluate {filter : Filter} {module : FoundModule} :
    (evaluate filter module).inScope = true ↔
      filter.excludesFile (String.ofList module.name) = false ∧
        filter.coversAssembly (String.ofList module.assemblyName) = true := by
  -- Whether the file is excluded is asked first.
  rw [inScope, evaluate]
  cases filter.excludesFile (String.ofList module.name) <;>
    cases filter.coversAssembly (String.ofList module.assemblyName) <;> simp

/-- A filter that narrows another one that has a rule has no module in scope that the other one has not. -/
theorem Filter.Narrows.inScope {narrow wide : Filter} (narrows : narrow.Narrows wide) (some : wide.coverage ≠ [])
    {module : FoundModule} (inScope : (Verdict.evaluate narrow module).inScope = true) :
    (Verdict.evaluate wide module).inScope = true := by
  rw [Verdict.inScope_evaluate] at inScope ⊢
  -- What the narrower filter covers is covered, and what the other one excludes it excludes, too.
  refine ⟨?_, narrows.assembly some _ inScope.2⟩
  rw [Bool.eq_false_iff]
  intro excluded
  exact Bool.eq_false_iff.mp inScope.1 (narrows.fileName _ excluded)

/-- The filter of a configuration and a command line is made of all their texts in their order. Making it fails just
if one of them is refused, and then for the reason of the first that is. Otherwise each collection holds one rule or
pattern for each text, after those for the default rules if these are wanted. So if the configuration gives a coverage
rule by itself, rules and exclusions on the command line never bring a module into scope. -/
theorem Config.merged_filter (config : Config) (arguments : CommandArguments) :
    (∀ error, FilterDraft.ofSettings (config.merge arguments).filters = .error error ↔
      ∃ before entry later, config.textsWith arguments = before ++ entry :: later ∧
        (∀ earlier ∈ before, ∃ part, earlier.Becomes part) ∧ entry.RefusedFor error) ∧
    ((∀ entry ∈ config.textsWith arguments, ¬∃ error, entry.RefusedFor error) →
      ∃ draft, FilterDraft.ofSettings (config.merge arguments).filters = .ok draft ∧
        ∀ target, List.Forall₂ RuleEntry.Becomes
          ((config.defaultsWith arguments ++ config.textsWith arguments).filter (·.target = target))
          (draft.filter.collection target)) ∧
    ∀ fewer, arguments.Extends fewer → config.GivesRule fewer →
      ∀ draft, FilterDraft.ofSettings (config.merge arguments).filters = .ok draft →
        ∃ before, FilterDraft.ofSettings (config.merge fewer).filters = .ok before ∧
          ∀ module, (Verdict.evaluate draft.filter module).inScope = true →
            (Verdict.evaluate before.filter module).inScope = true := by
  obtain ⟨defaults, added⟩ := config.addAll_defaultsWith arguments
  -- The default rules come first, and they are always taken.
  have split : FilterDraft.ofSettings (config.merge arguments).filters =
      defaults.addAll (config.textsWith arguments) := by
    rw [ofSettings_merge, FilterDraft.addAll_append, added, ok_bind]
  refine ⟨fun error => ?_, fun fine => ?_, fun fewer longer gives draft taken => ?_⟩
  · rw [split, FilterDraft.addAll_eq_error]
  · -- Whatever the error were, it would be that of a text.
    cases outcome : FilterDraft.ofSettings (config.merge arguments).filters with
    | error error =>
      rw [split, FilterDraft.addAll_eq_error] at outcome
      obtain ⟨before, entry, later, whole, _, refused⟩ := outcome
      exact absurd ⟨error, refused⟩ (fine entry (by simp [whole]))
    | ok draft =>
      rw [ofSettings_merge] at outcome
      exact ⟨draft, rfl, FilterDraft.collection_of_addAll outcome⟩
  · rw [ofSettings_merge] at taken
    have subset := longer.subset config
    -- The texts of the shorter command line have been accepted among the others.
    obtain ⟨before, taken'⟩ := (@FilterDraft.addAll_taken_iff {} _).mpr fun entry member =>
      FilterDraft.addAll_taken_iff.mp ⟨draft, taken⟩ entry (subset member)
    obtain ⟨entry, member, isRule⟩ := gives.exists_entry
    have some : before.coverage ≠ [] := FilterDraft.coverage_ne_nil_of_mem taken' member isRule
    refine ⟨before, by rw [ofSettings_merge, taken'], fun module => ?_⟩
    exact (FilterDraft.within_of_addAll taken' taken subset).narrows.inScope some

/-- With a rule on the command line the one module stays in scope that both rules agree on. A text that is refused
there is found before one that is refused later on, although both stand in the way. -/
theorem Config.merged_filter_of_two :
    let config : Config := { filters := { coverage := ["+[a*]*"], regexFiles := ["x+"] } }
    let refused : Config := { filters := { coverage := ["+[a*]*"], regexCoverage := ["+[(]b"] } }
    let fewer : CommandArguments := { noDefaultFilters := true, seed := ⟨"/m".toList⟩ }
    let arguments : CommandArguments := { fewer with filters := ["-[ab]*"], excludeByFile := ["*.g"] }
    let module : FoundModule := ⟨⟨"/m/ab.so".toList⟩, ⟨.replicate 32 0⟩, none, ⟨"ab".toList, []⟩⟩
    FilterDraft.ofSettings (refused.merge { fewer with filters := ["-[ab"] }).filters = .error (.malformed "-[ab") ∧
    arguments.Extends fewer ∧ config.GivesRule fewer ∧
    ∃ before draft, FilterDraft.ofSettings (config.merge fewer).filters = .ok before ∧
      FilterDraft.ofSettings (config.merge arguments).filters = .ok draft ∧
      (∀ target, List.Forall₂ RuleEntry.Becomes ((config.textsWith arguments).filter (·.target = target))
        (draft.filter.collection target)) ∧
      (∀ module, (Verdict.evaluate draft.filter module).inScope = true →
        (Verdict.evaluate before.filter module).inScope = true) ∧
      (Verdict.evaluate before.filter module).inScope = true ∧
      (Verdict.evaluate draft.filter module).inScope = false := by
  intro config refused fewer arguments module
  have malformed : FilterDraft.ofSettings (refused.merge { fewer with filters := ["-[ab"] }).filters =
      .error (.malformed "-[ab") := by
    rw [(refused.merged_filter _).1]
    have taken : (FilterPart.ofEntry ⟨.coverage, .wildcard, "+[a*]*"⟩).toOption.isSome = true := by decide +kernel
    obtain ⟨part, made⟩ := exists_ok taken
    refine ⟨[⟨.coverage, .wildcard, "+[a*]*"⟩], ⟨.coverage, .wildcard, "-[ab"⟩, _, rfl, ?_, ?_⟩
    · exact List.forall_mem_singleton.mpr ⟨part, RuleEntry.becomes_iff.mpr made⟩
    · exact RuleEntry.refusedFor_iff.mpr rfl
  have longer : arguments.Extends fewer := by
    constructor <;> simp [arguments, fewer]
  have gives : config.GivesRule fewer := .inr (.inl (by simp [config]))
  obtain ⟨_, succeeds, narrower⟩ := config.merged_filter arguments
  have fine : ∀ entry ∈ config.textsWith arguments, ¬∃ error, entry.RefusedFor error := by
    have taken : ∀ entry ∈ config.textsWith arguments, (FilterPart.ofEntry entry).toOption.isSome = true := by
      decide +kernel
    rintro entry member ⟨error, refused⟩
    obtain ⟨part, made⟩ := exists_ok (taken entry member)
    cases made.symm.trans (RuleEntry.refusedFor_iff.mp refused)
  obtain ⟨draft, built, holds⟩ := succeeds fine
  obtain ⟨before, built', only⟩ := narrower fewer longer gives draft built
  have excluded : (FilterDraft.ofSettings (config.merge arguments).filters).toOption.any
      (fun draft => !(Verdict.evaluate draft.filter module).inScope) = true := by decide +kernel
  have covered : (FilterDraft.ofSettings (config.merge fewer).filters).toOption.any
      (fun draft => (Verdict.evaluate draft.filter module).inScope) = true := by decide +kernel
  rw [built, Except.toOption, Option.any_some, Bool.not_eq_true'] at excluded
  rw [built', Except.toOption, Option.any_some] at covered
  exact ⟨malformed, longer, gives, before, draft, built', built, holds, only, covered, excluded⟩

end ModuleScope
