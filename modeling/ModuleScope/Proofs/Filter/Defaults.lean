import ModuleScope.Proofs.Filter.Accumulation
import ModuleScope.Proofs.Filter.Starless

/-! What the default rules take out of coverage: the platform's own assemblies, and every class named in one line. -/

namespace ModuleScope

namespace Wildcard

/-- Text with a star at its end matches the names that start with what stands before the star. -/
theorem matches_star_last {text name : List Char} (starless : '*' ∉ text) :
    Matches (text ++ ['*']) name ↔ ∃ line, name = text ++ line ∧ '\n' ∉ line := by
  induction text generalizing name with
  | nil =>
    rw [List.nil_append, matches_star]
    constructor
    · -- Nothing of the text is left behind the star.
      rintro ⟨line, rest, rfl, oneLine, matched⟩
      cases matched
      exact ⟨line, by simp, oneLine⟩
    · intro found
      obtain ⟨line, same, oneLine⟩ := found
      exact ⟨line, [], by simpa using same, oneLine, .nil⟩
  | cons c text ih =>
    simp only [List.mem_cons, not_or] at starless
    -- The first character is no star, so the name starts with it.
    rw [List.cons_append, matches_char (Ne.symm starless.1)]
    constructor
    · rintro ⟨rest, rfl, matched⟩
      obtain ⟨line, rfl, oneLine⟩ := (ih starless.2).mp matched
      exact ⟨line, rfl, oneLine⟩
    · rintro ⟨line, rfl, oneLine⟩
      exact ⟨text ++ line, rfl, (ih starless.2).mpr ⟨line, rfl, oneLine⟩⟩

end Wildcard

/-- The assemblies of the platform whose names are known in full. -/
def platformNames : List String := ["mscorlib", "System", "Microsoft.VisualBasic"]

/-- How the names of the platform's other assemblies start. -/
def platformStarts : List String := ["mscorlib.", "System."]

/-- The name is that of an assembly of the platform. -/
def IsPlatformName (name : String) : Prop :=
  name ∈ platformNames ∨ ∃ start ∈ platformStarts, start.toList <+: name.toList

instance (name : String) : Decidable (IsPlatformName name) :=
  inferInstanceAs (Decidable (_ ∨ ∃ start ∈ platformStarts, start.toList <+: name.toList))

/-- The text of a rule with wildcards, to be added to a filter. -/
def RuleText.entry (parts : RuleText) : RuleEntry :=
  ⟨.coverage, .wildcard, String.ofList (parts.write .plain)⟩

/-- The parts of the default rules. -/
def defaultParts : List RuleText :=
  ["mscorlib", "mscorlib.*", "System", "System.*", "Microsoft.VisualBasic"].map fun assembly =>
    ⟨.exclusive, assembly.toList, ['*']⟩

/-- A default rule excludes the names that its assembly matches, and every class. -/
theorem mem_defaultParts {parts : RuleText} (member : parts ∈ defaultParts) :
    parts.polarity = .exclusive ∧ parts.className = ['*'] := by
  obtain ⟨assembly, _, rfl⟩ := List.mem_map.mp member
  exact ⟨rfl, rfl⟩

/-- The default rules are these parts, written out. -/
theorem defaultRules_eq : defaultRules = defaultParts.map RuleText.entry := by
  decide

/-- Each default rule is read as its parts, and these are neither blank nor in need of brackets. -/
theorem defaultParts_read {parts : RuleText} (member : parts ∈ defaultParts) :
    RuleText.ofText? .plain (parts.write .plain) = some parts ∧ parts.isBlank = false ∧
      (∀ c ∈ parts.assembly ++ parts.className, c ∉ Wildcard.signs ∧ c ∉ ['\\', '[', ']']) := by
  -- The table is short, and each of its entries is checked.
  have read : ∀ parts ∈ defaultParts, RuleText.ofText? .plain (parts.write .plain) = some parts := by
    decide +kernel
  have filled : ∀ parts ∈ defaultParts, parts.isBlank = false := by
    decide +kernel
  have free : ∀ parts ∈ defaultParts, (parts.assembly ++ parts.className).all
      (fun c => !(Wildcard.signs ++ ['\\', '[', ']']).contains c) = true := by
    decide +kernel
  refine ⟨read parts member, filled parts member, ?_⟩
  intro c inside
  have apart := List.all_eq_true.mp (free parts member) c inside
  simpa using apart

/-- The expressions of the default rules compile. -/
theorem defaultParts_compiles {parts : RuleText} (member : parts ∈ defaultParts) :
    Compiles parts.translated.assembly ∧ Compiles parts.translated.className := by
  have compiles : ∀ parts ∈ defaultParts,
      (matcherOf (String.ofList parts.translated.assembly) true).toOption.isSome = true ∧
      (matcherOf (String.ofList parts.translated.className) true).toOption.isSome = true := by
    decide +kernel
  exact ⟨exists_ok (compiles parts member).1, exists_ok (compiles parts member).2⟩

/-- The rules that the default texts become. -/
def defaultDraft : FilterDraft := { coverage := defaultParts.map fun parts => .ofSegments parts.translated }

namespace FilterDraft

/-- A default text is added as the rule of its parts. -/
theorem add_default (draft : FilterDraft) {parts : RuleText} (member : parts ∈ defaultParts) :
    draft.add parts.entry = .ok (draft.append (.coverage (.ofSegments parts.translated))) := by
  obtain ⟨read, filled, free⟩ := defaultParts_read member
  have plain : ∀ c ∈ parts.assembly ++ parts.className, c ∉ ['\\', '[', ']'] := fun c inside => (free c inside).2
  have freeAssembly : ¬HoldsBracket parts.assembly := by
    rintro ⟨c, inside, reserved⟩
    exact plain c (List.mem_append_left _ inside) reserved
  have freeClass : ¬HoldsBracket parts.className := by
    rintro ⟨c, inside, reserved⟩
    exact plain c (List.mem_append_right _ inside) reserved
  obtain ⟨assembly, className⟩ := defaultParts_compiles member
  -- No check of the parts fails, so the rule is added.
  rw [RuleText.entry, draft.add_wildcard_eq, String.toList_ofList, read]
  simp only [filled, Bool.false_eq_true, if_false]
  exact (wildcards_outcome draft parts).added freeAssembly freeClass assembly className

/-- Texts of default rules are added as the rules of their parts, in their order. -/
theorem addAll_default (draft : FilterDraft) {several : List RuleText} (among : several ⊆ defaultParts) :
    draft.addAll (several.map RuleText.entry) =
      .ok (draft.plus { coverage := several.map fun parts => .ofSegments parts.translated }) := by
  induction several generalizing draft with
  | nil => exact congrArg Except.ok draft.plus_empty.symm
  | cons parts rest ih =>
    rw [List.cons_subset] at among
    have first := draft.add_default among.1
    have others := ih (draft.append (.coverage (.ofSegments parts.translated))) among.2
    -- The first rule is added, and the others behind it.
    rw [List.map_cons, addAll_cons, first, ok_bind, others]
    apply congrArg Except.ok
    rw [append_eq_plus, plus_assoc]
    rfl

/-- The default rules can be added to every draft. -/
theorem addDefaults_eq (draft : FilterDraft) : draft.addDefaults = .ok (draft.plus defaultDraft) := by
  rw [addDefaults, defaultRules_eq]
  exact draft.addAll_default (List.Subset.refl defaultParts)

end FilterDraft

/-- The assembly of a default rule is a name of the platform, or the start of some with a star. -/
theorem defaultParts_assembly {parts : RuleText} (member : parts ∈ defaultParts) :
    (∃ name ∈ platformNames, parts.assembly = name.toList) ∨
      ∃ start ∈ platformStarts, parts.assembly = start.toList ++ ['*'] := by
  revert parts
  decide +kernel

/-- No star stands in the names of the platform, nor in their starts. -/
theorem platform_starless {text : String} (member : text ∈ platformNames ++ platformStarts) :
    '*' ∉ text.toList := by
  revert text
  decide +kernel

/-- The text of a part of a default rule becomes a pattern that matches what the text matches. -/
theorem defaultParts_isMatch {parts : RuleText} (member : parts ∈ defaultParts) (name : String) :
    ((Pattern.ofSegment parts.translated.assembly).isMatch name = true ↔
        Wildcard.Matches parts.assembly name.toList) ∧
      ((Pattern.ofSegment parts.translated.className).isMatch name = true ↔
        Wildcard.Matches parts.className name.toList) := by
  obtain ⟨_, _, free⟩ := defaultParts_read member
  obtain ⟨assembly, className⟩ := defaultParts_compiles member
  -- None of the characters means anything to a regular expression once it is translated.
  have plain : ∀ c ∈ parts.assembly ++ parts.className, c ∉ Regex.liveSigns := fun c inside =>
    Wildcard.not_live (free c inside).1
  have bracket : '[' ∉ parts.assembly ++ parts.className := fun inside => (free _ inside).2 (by decide)
  rw [List.mem_append, not_or] at bracket
  constructor
  · exact Pattern.ofSegment_isMatch_iff (fun c inside => plain c (List.mem_append_left _ inside)) bracket.1
      assembly name
  · exact Pattern.ofSegment_isMatch_iff (fun c inside => plain c (List.mem_append_right _ inside)) bracket.2
      className name

/-- Every default rule agrees that an assembly outside the platform is covered. -/
theorem default_coversAssembly {parts : RuleText} (member : parts ∈ defaultParts) {name : String}
    (foreign : ¬IsPlatformName name) : (CoverageRule.ofSegments parts.translated).coversAssembly name = true := by
  have exclusive : (CoverageRule.ofSegments parts.translated).polarity = .exclusive := (mem_defaultParts member).1
  have unmatched : ¬(Pattern.ofSegment parts.translated.assembly).isMatch name = true := by
    rw [(defaultParts_isMatch member name).1]
    intro matched
    apply foreign
    -- A name that the rule matches is one of the platform's, in full or by its start.
    rcases defaultParts_assembly member with ⟨known, listed, same⟩ | ⟨start, listed, same⟩
    · rw [same, Wildcard.matches_starless (platform_starless (List.mem_append_left _ listed))] at matched
      rw [String.toList_inj] at matched
      exact Or.inl (matched ▸ listed)
    · rw [same, Wildcard.matches_star_last (platform_starless (List.mem_append_right _ listed))] at matched
      obtain ⟨line, whole, _⟩ := matched
      exact Or.inr ⟨start, listed, line, whole.symm⟩
  rw [CoverageRule.coversAssembly, exclusive]
  simpa [Polarity.verdict, CoverageRule.ofSegments] using unmatched

/-- Every default rule disagrees on each class whose name is one line: its class is a star, which matches them all. -/
theorem default_coversClass {parts : RuleText} (member : parts ∈ defaultParts) (name : String) :
    (CoverageRule.ofSegments parts.translated).coversClass name = name.toList.contains '\n' := by
  obtain ⟨exclusive, star⟩ := mem_defaultParts member
  have matched : (Pattern.ofSegment parts.translated.className).isMatch name = true ↔ '\n' ∉ name.toList := by
    rw [(defaultParts_isMatch member name).2, star]
    -- The star stands alone.
    have starless : '*' ∉ ([] : List Char) := by simp
    rw [← List.nil_append ['*'], Wildcard.matches_star_last starless]
    simp
  -- An excluding rule says the opposite of its pattern.
  have negated : (CoverageRule.ofSegments parts.translated).coversClass name =
      !(Pattern.ofSegment parts.translated.className).isMatch name := by
    rw [CoverageRule.coversClass, show (CoverageRule.ofSegments parts.translated).polarity = _ from exclusive]
    rfl
  rw [negated, Bool.eq_iff_iff, Bool.not_eq_true', Bool.eq_false_iff, ne_eq, matched, Decidable.not_not]
  simp

/-- All default rules agree that an assembly outside the platform is covered. -/
theorem default_agrees {assembly : String} (foreign : ¬IsPlatformName assembly) :
    defaultDraft.coverage.all (·.coversAssembly assembly) = true := by
  rw [List.all_eq_true]
  intro rule listed
  obtain ⟨parts, member, rfl⟩ := List.mem_map.mp listed
  exact default_coversAssembly member foreign

/-- The default rules agree on just those classes whose names go on to another line. -/
theorem default_vetoes (className : String) :
    defaultDraft.coverage.all (·.coversClass className) = className.toList.contains '\n' := by
  have each : ∀ rule ∈ defaultDraft.coverage, rule.coversClass className = className.toList.contains '\n' := by
    intro rule listed
    obtain ⟨parts, member, rfl⟩ := List.mem_map.mp listed
    exact default_coversClass member className
  rw [Bool.eq_iff_iff, List.all_eq_true]
  constructor
  · -- There is a default rule, and it stands for all of them.
    intro agreed
    have one : defaultDraft.coverage.head (by decide) ∈ defaultDraft.coverage := List.head_mem _
    rw [← each _ one]
    exact agreed _ one
  · intro several rule listed
    rw [each rule listed]
    exact several

namespace FilterDraft

/-- Rules that are added between others have a say in what is covered, and no more than that. -/
theorem covers_plus (draft added more : FilterDraft) (some : (draft.plus more).coverage ≠ []) :
    (∀ name, ((draft.plus added).plus more).filter.coversAssembly name =
        ((draft.plus more).filter.coversAssembly name && added.coverage.all (·.coversAssembly name))) ∧
      ∀ name, ((draft.plus added).plus more).filter.coversClass name =
        ((draft.plus more).filter.coversClass name && added.coverage.all (·.coversClass name)) := by
  -- There are rules with the added ones if there are some without them.
  have some' : ((draft.plus added).plus more).coverage ≠ [] := by
    simp only [plus, ne_eq, List.append_eq_nil_iff] at some ⊢
    intro none
    exact some ⟨none.1.1, none.2⟩
  rw [ne_eq, ← List.isEmpty_iff, Bool.not_eq_true] at some some'
  constructor
  · intro name
    simp only [Filter.coversAssembly, filter, some, some', Bool.not_false, Bool.true_and]
    simp only [plus, List.all_append, Bool.and_assoc, Bool.and_comm (added.coverage.all _)]
  · intro name
    simp only [Filter.coversClass, filter, some, some', Bool.not_false, Bool.true_and]
    simp only [plus, List.all_append, Bool.and_assoc, Bool.and_comm (added.coverage.all _)]

/-- The default rules can be added between texts that are accepted without them. -/
theorem addAll_around_defaults {first second : List RuleEntry} {alone : FilterDraft}
    (accepted : addAll {} (first ++ second) = .ok alone) :
    ∃ draft more : FilterDraft, alone = draft.plus more ∧
      (do (← (← addAll {} first).addDefaults).addAll second) = .ok ((draft.plus defaultDraft).plus more) := by
  rw [addAll_append] at accepted
  obtain ⟨draft, before, after⟩ := bind_eq_ok accepted
  obtain ⟨more, added, rfl⟩ := addAll_eq_ok.mp after
  -- The other texts add the same after the default rules as without them.
  have last : (draft.plus defaultDraft).addAll second = .ok ((draft.plus defaultDraft).plus more) :=
    addAll_eq_ok.mpr ⟨more, added, rfl⟩
  refine ⟨draft, more, rfl, ?_⟩
  rw [before, ok_bind, draft.addDefaults_eq, ok_bind, last]

/-- The default rules, wherever they stand among other rules, leave the verdicts on assemblies outside the platform
as they are, and take every class out of coverage whose name is one line. -/
theorem covers_with_defaults {first second : List RuleEntry} {alone : FilterDraft}
    (accepted : addAll {} (first ++ second) = .ok alone)
    (rule : ∃ entry ∈ first ++ second, entry.target = .coverage) :
    ∃ both, (do (← (← addAll {} first).addDefaults).addAll second) = .ok both ∧
      ∀ assembly, ¬IsPlatformName assembly →
        both.filter.coversAssembly assembly = alone.filter.coversAssembly assembly ∧
        ∀ className, both.filter.covers assembly className =
          (alone.filter.covers assembly className && className.toList.contains '\n') := by
  obtain ⟨entry, member, isRule⟩ := rule
  have some : alone.coverage ≠ [] := coverage_ne_nil_of_mem accepted member isRule
  obtain ⟨draft, more, rfl, built⟩ := addAll_around_defaults accepted
  obtain ⟨assemblies, classes⟩ := covers_plus draft defaultDraft more some
  refine ⟨_, built, ?_⟩
  intro assembly foreign
  -- About an assembly outside the platform the default rules agree with anybody.
  have unchanged : ((draft.plus defaultDraft).plus more).filter.coversAssembly assembly =
      (draft.plus more).filter.coversAssembly assembly := by
    rw [assemblies, default_agrees foreign, Bool.and_true]
  refine ⟨unchanged, fun className => ?_⟩
  rw [Filter.covers, Filter.covers, unchanged, classes, default_vetoes, Bool.and_assoc]

/-- A rule for all names covers a class in two lines also with the default rules, and one in a line only without. -/
theorem defaults_spare_two_lines :
    ∃ alone both, addAll {} [⟨.coverage, .regex, "+[.*](?s).*"⟩] = .ok alone ∧
      (do (← (← addAll {} []).addDefaults).addAll [⟨.coverage, .regex, "+[.*](?s).*"⟩]) = .ok both ∧
      both.filter.coversAssembly "MyApp" = true ∧ both.filter.covers "MyApp" "a\nb" = true ∧
      alone.filter.covers "MyApp" "a" = true ∧ both.filter.covers "MyApp" "a" = false := by
  have all : (addAll {} [⟨.coverage, .regex, "+[.*](?s).*"⟩]).toOption.any (fun alone =>
      alone.filter.coversAssembly "MyApp" && alone.filter.covers "MyApp" "a\nb" &&
        alone.filter.covers "MyApp" "a") = true := by
    decide +kernel
  obtain ⟨alone, accepted, said⟩ := exists_ok_of_any all
  simp only [Bool.and_eq_true] at said
  have accepted' : addAll {} ([] ++ [⟨.coverage, .regex, "+[.*](?s).*"⟩]) = .ok alone := accepted
  -- The rule stands behind the default ones.
  obtain ⟨both, built, same⟩ := covers_with_defaults accepted'
    ⟨⟨.coverage, .regex, "+[.*](?s).*"⟩, List.mem_cons_self, rfl⟩
  obtain ⟨assembly, classes⟩ := same "MyApp" (by decide)
  refine ⟨alone, both, accepted, built, assembly.trans said.1.1, ?_, said.2, ?_⟩
  · rw [classes, said.1.2]
    decide
  · rw [classes, said.2]
    decide

/-- With the default rules a rule for all names covers no class in a line, although the assembly is none of the
platform's. -/
theorem defaults_veto_foreign_class :
    ∃ alone both, addAll {} [⟨.coverage, .wildcard, "+[*]*"⟩] = .ok alone ∧
      (do (← addDefaults {}).addAll [⟨.coverage, .wildcard, "+[*]*"⟩]) = .ok both ∧
      ¬IsPlatformName "MyApp" ∧ alone.filter.covers "MyApp" "Foo" = true ∧
      both.filter.covers "MyApp" "Foo" = false := by
  have without : (addAll {} [⟨.coverage, .wildcard, "+[*]*"⟩]).toOption.any
      (fun alone => alone.filter.covers "MyApp" "Foo") = true := by decide +kernel
  obtain ⟨alone, accepted, covered⟩ := exists_ok_of_any without
  have some : alone.coverage ≠ [] := coverage_ne_nil_of_mem accepted List.mem_cons_self rfl
  have defaults : addDefaults {} = .ok defaultDraft := by
    rw [addDefaults_eq, empty_plus]
  have built : (do (← addDefaults {}).addAll [⟨.coverage, .wildcard, "+[*]*"⟩]) = .ok (defaultDraft.plus alone) := by
    rw [defaults, ok_bind, addAll_eq_ok]
    exact ⟨alone, accepted, rfl⟩
  -- The class of every default rule is a star, and each rule speaks of classes whatever the assembly.
  have vetoed : (defaultDraft.plus alone).filter.coversClass "Foo" = false := by
    have classes := (covers_plus {} defaultDraft alone (by simpa using some)).2 "Foo"
    rw [default_vetoes, empty_plus] at classes
    rw [classes, Bool.and_eq_false_imp]
    exact fun _ => by decide
  refine ⟨alone, _, accepted, built, by decide, covered, ?_⟩
  rw [Filter.covers, vetoed, Bool.and_false]

end FilterDraft

end ModuleScope
