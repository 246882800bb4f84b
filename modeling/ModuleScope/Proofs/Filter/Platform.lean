import ModuleScope.Proofs.Filter.Calls
import ModuleScope.Proofs.Scope.Verdict

/-! Which assemblies are covered with the default rules: those that are none of the platform's, as far as all other
rules agree. -/

namespace ModuleScope

variable {name : String}

/-- A default rule agrees on the assemblies that its text does not match. -/
theorem default_coversAssembly_iff {parts : RuleText} (member : parts ∈ defaultParts) :
    (CoverageRule.ofSegments parts.translated).coversAssembly name = true ↔
      ¬Wildcard.Matches parts.assembly name.toList := by
  have exclusive : (CoverageRule.ofSegments parts.translated).polarity = .exclusive := (mem_defaultParts member).1
  rw [CoverageRule.coversAssembly, exclusive, ← (defaultParts_isMatch member name).1]
  simp [Polarity.verdict, CoverageRule.ofSegments]

/-- Each name of the platform is the text of a default rule, and each start of such names is one with a star. -/
theorem exists_defaultParts :
    (∀ known ∈ platformNames, ∃ parts ∈ defaultParts, parts.assembly = known.toList) ∧
      ∀ start ∈ platformStarts, ∃ parts ∈ defaultParts, parts.assembly = start.toList ++ ['*'] := by
  decide +kernel

/-- A name of the platform that is one line is matched by the text of a default rule. -/
theorem IsPlatformName.matched (known : IsPlatformName name) (line : '\n' ∉ name.toList) :
    ∃ parts ∈ defaultParts, Wildcard.Matches parts.assembly name.toList := by
  rcases known with listed | ⟨start, listed, rest, whole⟩
  · -- The name stands in the table in full.
    obtain ⟨parts, member, same⟩ := exists_defaultParts.1 name listed
    refine ⟨parts, member, ?_⟩
    rw [same, Wildcard.matches_starless (platform_starless (List.mem_append_left _ listed))]
  · -- What follows the start is in the same line, so the star matches it.
    obtain ⟨parts, member, same⟩ := exists_defaultParts.2 start listed
    have inLine : '\n' ∉ rest := fun inside => line (whole ▸ List.mem_append_right _ inside)
    refine ⟨parts, member, ?_⟩
    rw [same, Wildcard.matches_star_last (platform_starless (List.mem_append_right _ listed))]
    exact ⟨rest, whole.symm, inLine⟩

/-- The default rules agree on just those names in one line that are none of the platform's. -/
theorem default_agrees_iff (line : '\n' ∉ name.toList) :
    (∀ rule ∈ defaultDraft.coverage, rule.coversAssembly name = true) ↔ ¬IsPlatformName name := by
  constructor
  · -- A rule that matches a name disagrees, as all of them exclude.
    intro agreed known
    obtain ⟨parts, member, matched⟩ := known.matched line
    exact (default_coversAssembly_iff member).mp (agreed _ (List.mem_map_of_mem member)) matched
  · intro foreign rule listed
    exact List.all_eq_true.mp (default_agrees foreign) rule listed

namespace FilterDraft

variable {entries first second : List RuleEntry} {draft alone : FilterDraft}

/-- The rules of a draft are those of the texts that it has taken. -/
theorem mem_coverage_of_addAll (taken : addAll {} entries = .ok draft) {rule : CoverageRule} :
    rule ∈ draft.coverage ↔ ∃ entry ∈ entries, FilterPart.ofEntry entry = .ok (.coverage rule) := by
  -- Behind an empty draft there are just the rules of the texts.
  have held : draft.coverage.map FilterPart.coverage =
      (entries.filterMap RuleEntry.part?).filter (·.target = .coverage) := collection_addAll taken .coverage
  have inside : rule ∈ draft.coverage ↔ FilterPart.coverage rule ∈ draft.coverage.map FilterPart.coverage := by
    simp
  rw [inside, held]
  simp [FilterPart.target, RuleEntry.part?_eq_some]

/-- A name in one line is covered with the default rules among others if it is none of the platform's and each of the
others agrees. -/
theorem coversAssembly_around_defaults (draft more : FilterDraft) (line : '\n' ∉ name.toList) :
    ((draft.plus defaultDraft).plus more).filter.coversAssembly name = true ↔
      ¬IsPlatformName name ∧ ∀ rule ∈ (draft.plus more).coverage, rule.coversAssembly name = true := by
  -- With the default rules there is always a rule.
  have some : ((draft.plus defaultDraft).plus more).filter.coverage ≠ [] := by
    intro none
    have nothing : defaultDraft.coverage = [] :=
      (List.append_eq_nil_iff.mp (List.append_eq_nil_iff.mp none).1).2
    cases nothing
  rw [Filter.coversAssembly_iff, ← default_agrees_iff line, and_iff_right some]
  simp only [filter, plus, List.mem_append]
  -- Only the order of the rules differs.
  constructor
  · intro agreed
    exact ⟨fun rule member => agreed rule (.inl (.inr member)), fun rule member =>
      agreed rule (member.imp_left .inl)⟩
  · rintro ⟨defaults, others⟩ rule ((before | default) | after)
    · exact others rule (.inl before)
    · exact defaults rule default
    · exact others rule (.inr after)

/-- With the default rules anywhere among others, an assembly whose name is one line is covered just if it is none of
the platform's and each of the other rules agrees. So if there are others the verdict on every other name is the one
that they give alone, and if there are none it turns from not covered to covered. -/
theorem coversAssembly_with_defaults (accepted : addAll {} (first ++ second) = .ok alone)
    (rules : ∀ entry ∈ first ++ second, entry.target = .coverage) :
    ∃ both, (do (← (← addAll {} first).addDefaults).addAll second) = .ok both ∧
      ∀ name : String, '\n' ∉ name.toList →
        (both.filter.coversAssembly name = true ↔ ¬IsPlatformName name ∧
          ∀ entry ∈ first ++ second, ∀ rule, FilterPart.ofEntry entry = .ok (.coverage rule) →
            rule.coversAssembly name = true) ∧
        (¬IsPlatformName name →
          (first ++ second ≠ [] → both.filter.coversAssembly name = alone.filter.coversAssembly name) ∧
          (first ++ second = [] →
            alone.filter.coversAssembly name = false ∧ both.filter.coversAssembly name = true)) := by
  obtain ⟨draft, more, rfl, built⟩ := addAll_around_defaults accepted
  refine ⟨_, built, fun name line => ?_⟩
  have covered := coversAssembly_around_defaults draft more line
  -- The rules of the draft are those of the texts.
  have agreed : (∀ rule ∈ (draft.plus more).coverage, rule.coversAssembly name = true) ↔
      ∀ entry ∈ first ++ second, ∀ rule, FilterPart.ofEntry entry = .ok (.coverage rule) →
        rule.coversAssembly name = true := by
    simp only [mem_coverage_of_addAll accepted]
    constructor
    · intro each entry member rule made
      exact each rule ⟨entry, member, made⟩
    · rintro each rule ⟨entry, member, made⟩
      exact each entry member rule made
  refine ⟨covered.trans (and_congr_right fun _ => agreed), fun foreign => ⟨fun several => ?_, fun none => ?_⟩⟩
  · -- There is a rule in either case, so that only the agreement counts.
    obtain ⟨entry, rest, split⟩ := List.exists_cons_of_ne_nil several
    have member : entry ∈ first ++ second := split ▸ List.mem_cons_self
    have some : (draft.plus more).coverage ≠ [] := coverage_ne_nil_of_mem accepted member (rules entry member)
    rw [Bool.eq_iff_iff, covered, and_iff_right foreign, Filter.coversAssembly_iff]
    exact (and_iff_right some).symm
  · -- Nothing has been added, so nothing is covered without the default rules.
    rw [none] at accepted
    have nothing : (draft.plus more).coverage = [] := congrArg coverage (Except.ok.inj accepted).symm
    refine ⟨?_, covered.mpr ⟨foreign, ?_⟩⟩
    · rw [Bool.eq_false_iff, ne_eq, Filter.coversAssembly_iff]
      exact fun agreed => agreed.1 nothing
    · rw [nothing]
      simp

/-- Names that only look like the platform's get the verdict of the other rules, and they are covered if there are no
other rules. -/
theorem covers_look_alikes :
    let first : RuleEntry := ⟨.coverage, .wildcard, "+[Sys*]*"⟩
    let second : RuleEntry := ⟨.coverage, .regex, "-[.*x](.*)"⟩
    ∃ alone both defaults, addAll {} ([first] ++ [second]) = .ok alone ∧
      (do (← (← addAll {} [first]).addDefaults).addAll [second]) = .ok both ∧
      (do (← (← addAll {} []).addDefaults).addAll []) = .ok defaults ∧
      both.filter.coversAssembly "SystemTools" = true ∧ both.filter.coversAssembly "Systemx" = false ∧
      both.filter.coversAssembly "System.IO" = false ∧
      defaults.filter.coversAssembly "Systemx" = true ∧ defaults.filter.coversAssembly "System" = false := by
  intro first second
  have all : (addAll {} ([first] ++ [second])).toOption.any (fun alone =>
      alone.filter.coversAssembly "SystemTools" && !alone.filter.coversAssembly "Systemx") = true := by
    decide +kernel
  obtain ⟨alone, accepted, said⟩ := exists_ok_of_any all
  rw [Bool.and_eq_true, Bool.not_eq_true'] at said
  -- The second draft gets the default rules and nothing else.
  have nothing : addAll {} ([] ++ []) = .ok {} := rfl
  obtain ⟨both, built, some⟩ := coversAssembly_with_defaults accepted (by decide)
  obtain ⟨defaults, built', none⟩ := coversAssembly_with_defaults nothing (by decide)
  refine ⟨alone, both, defaults, accepted, built, built', ?_, ?_, ?_, ?_, ?_⟩
  · rw [((some "SystemTools" (by decide)).2 (by decide)).1 (by decide), said.1]
  · rw [((some "Systemx" (by decide)).2 (by decide)).1 (by decide), said.2]
  · rw [Bool.eq_false_iff, ne_eq, (some "System.IO" (by decide)).1]
    exact fun covered => covered.1 (by decide)
  · exact (((none "Systemx" (by decide)).2 (by decide)).2 rfl).2
  · rw [Bool.eq_false_iff, ne_eq, (none "System" (by decide)).1]
    exact fun covered => covered.1 (by decide)

end FilterDraft

end ModuleScope
