import ModuleScope.Proofs.Filter.RuleText
import ModuleScope.Proofs.Filter.Segments

/-! What becomes of a coverage rule that is written with wildcards: the checks in their order, and the rule. -/

namespace ModuleScope

open RuleText (Splits SplitsLast)

/-- The text holds a backslash or a bracket, which neither part of a rule may hold. -/
def HoldsBracket (text : List Char) : Prop := ∃ c ∈ text, c ∈ ['\\', '[', ']']

/-- Texts for both parts of a rule are checked for these characters. -/
theorem Wildcard.hasReserved_iff {kind : NameKind} (inRule : kind.reserved = ['\\', '[', ']'])
    {text : List Char} : hasReserved kind text = true ↔ HoldsBracket text := by
  simp [hasReserved, inRule, HoldsBracket]

/-- A part of a rule that holds one of these characters is refused. -/
theorem Pattern.wildcard_reserved {kind : NameKind} (inRule : kind.reserved = ['\\', '[', ']'])
    {text : List Char} (held : HoldsBracket text) :
    Pattern.wildcard (String.ofList text) kind = .error (.reserved (String.ofList text) kind) := by
  simp [Pattern.wildcard, (Wildcard.hasReserved_iff inRule).mpr held]

/-- A part of a rule that holds none of them becomes an expression. -/
theorem Pattern.wildcard_free {kind : NameKind} (inRule : kind.reserved = ['\\', '[', ']'])
    {text : List Char} (free : ¬HoldsBracket text) :
    Pattern.wildcard (String.ofList text) kind =
      .ok (Pattern.regex (String.ofList (Wildcard.expression text))) := by
  rw [← Wildcard.hasReserved_iff inRule, Bool.not_eq_true] at free
  simp [Pattern.wildcard, free]

namespace RuleText

variable {parts : RuleText}

/-- The assembly is checked for these characters first. -/
theorem expressions_assembly (held : HoldsBracket parts.assembly) :
    parts.expressions = .error (.reserved (String.ofList parts.assembly) .assemblyName) := by
  rw [expressions, Pattern.wildcard_reserved rfl held]
  rfl

/-- The class is checked next. -/
theorem expressions_className (free : ¬HoldsBracket parts.assembly) (held : HoldsBracket parts.className) :
    parts.expressions = .error (.reserved (String.ofList parts.className) .className) := by
  rw [expressions, Pattern.wildcard_free rfl free, Pattern.wildcard_reserved rfl held]
  rfl

/-- Parts without these characters are translated. -/
theorem expressions_free (free : ¬HoldsBracket parts.assembly) (free' : ¬HoldsBracket parts.className) :
    parts.expressions = .ok parts.translated := by
  -- Both patterns are made, and none of them is compiled yet.
  rw [expressions, Pattern.wildcard_free rfl free, Pattern.wildcard_free rfl free']
  simp only [Bind.bind, Except.bind, Pattern.regex, String.toList_ofList]
  rfl

end RuleText

/-- What becomes of a rule with the given parts, none of which is blank: the first check that fails decides. -/
structure WildcardOutcome (draft : FilterDraft) (parts : RuleText) (outcome : Except RuleError FilterDraft) :
    Prop where
  /-- The assembly holds a bracket or a backslash. -/
  assemblyReserved : HoldsBracket parts.assembly →
    outcome = .error (.reserved (String.ofList parts.assembly) .assemblyName)
  /-- Only the class holds one. -/
  classReserved : ¬HoldsBracket parts.assembly → HoldsBracket parts.className →
    outcome = .error (.reserved (String.ofList parts.className) .className)
  /-- Neither does, and the expression for the assembly does not compile. -/
  assemblyInvalid : ¬HoldsBracket parts.assembly → ¬HoldsBracket parts.className →
    ∀ cause, matcherOf (String.ofList parts.translated.assembly) true = .error cause →
      outcome = .error (.invalidPattern (String.ofList parts.translated.assembly) cause)
  /-- It does, and the expression for the class does not. -/
  classInvalid : ¬HoldsBracket parts.assembly → ¬HoldsBracket parts.className →
    Compiles parts.translated.assembly →
    ∀ cause, matcherOf (String.ofList parts.translated.className) true = .error cause →
      outcome = .error (.invalidPattern (String.ofList parts.translated.className) cause)
  /-- Both do, and the rule is added. -/
  added : ¬HoldsBracket parts.assembly → ¬HoldsBracket parts.className →
    Compiles parts.translated.assembly → Compiles parts.translated.className →
    outcome = .ok (draft.append (.coverage (.ofSegments parts.translated)))

/-- The rule whose parts are these texts with wildcards. -/
def CoverageRule.ofWildcards (parts : RuleText) : Except RuleError CoverageRule := do
  let found ← parts.expressions
  ofExpressions found.polarity found.assembly found.className

/-- Adding a rule with wildcards means taking it apart, checking its parts and keeping it. -/
theorem FilterDraft.add_wildcard_eq (draft : FilterDraft) (text : String) :
    draft.add ⟨.coverage, .wildcard, text⟩ =
      match RuleText.ofText? .plain text.toList with
      | none => .error (.malformed text)
      | some parts =>
        if parts.isBlank then .error (.malformed text)
        else (CoverageRule.ofWildcards parts).map fun rule => draft.append (.coverage rule) := by
  rw [FilterDraft.add, FilterPart.ofEntry_coverage, RuleText.ofForm, RuleText.ofWildcard, RuleText.parse]
  cases RuleText.ofText? .plain text.toList with
  | none => rfl
  | some parts =>
    by_cases blank : parts.isBlank = true
    · -- A blank assembly is refused before anything is looked at.
      simp only [blank, if_true]
      rfl
    · -- Otherwise the first step that fails decides on both sides.
      simp only [blank, if_false, Bool.false_eq_true, CoverageRule.ofWildcards, Bind.bind, Except.bind]
      cases parts.expressions with
      | error error => rfl
      | ok found =>
        simp only
        cases CoverageRule.ofExpressions found.polarity found.assembly found.className <;> rfl

/-- The parts of a rule are checked for reserved characters first, and then they are compiled. -/
theorem wildcards_outcome (draft : FilterDraft) (parts : RuleText) :
    WildcardOutcome draft parts
      ((CoverageRule.ofWildcards parts).map fun rule => draft.append (.coverage rule)) where
  -- The assembly is looked at before the class.
  assemblyReserved held := by
    rw [CoverageRule.ofWildcards, RuleText.expressions_assembly held]
    rfl
  classReserved free held := by
    rw [CoverageRule.ofWildcards, RuleText.expressions_className free held]
    rfl
  -- Compiling starts only when both parts are free of reserved characters.
  assemblyInvalid free free' cause fails := by
    rw [CoverageRule.ofWildcards, RuleText.expressions_free free free']
    exact congrArg (Except.map _) (CoverageRule.ofExpressions_assembly fails)
  classInvalid free free' compiles cause fails := by
    rw [CoverageRule.ofWildcards, RuleText.expressions_free free free']
    exact congrArg (Except.map _) (CoverageRule.ofExpressions_className compiles fails)
  added free free' compiles compiles' := by
    rw [CoverageRule.ofWildcards, RuleText.expressions_free free free']
    exact congrArg (Except.map _) (CoverageRule.ofExpressions_eq_ok.mpr ⟨rfl, compiles, compiles'⟩)

/-- The outcome is never that of a text that is no rule. -/
theorem WildcardOutcome.ne_malformed {draft : FilterDraft} {parts : RuleText}
    {outcome : Except RuleError FilterDraft} (decided : WildcardOutcome draft parts outcome) (text : String) :
    outcome ≠ .error (.malformed text) := by
  -- Each check that fails gives an error of its own.
  intro same
  by_cases held : HoldsBracket parts.assembly
  · cases (decided.assemblyReserved held).symm.trans same
  by_cases held' : HoldsBracket parts.className
  · cases (decided.classReserved held held').symm.trans same
  cases first : matcherOf (String.ofList parts.translated.assembly) true with
  -- No part holds a bracket, so the expressions have been compiled.
  | error cause => cases (decided.assemblyInvalid held held' cause first).symm.trans same
  | ok regex =>
    cases second : matcherOf (String.ofList parts.translated.className) true with
    | error cause => cases (decided.classInvalid held held' ⟨regex, first⟩ cause second).symm.trans same
    | ok regex' => cases (decided.added held held' ⟨regex, first⟩ ⟨regex', second⟩).symm.trans same

/-- Where the rule is added all checks have been passed. -/
theorem WildcardOutcome.of_ok {draft next : FilterDraft} {parts : RuleText}
    {outcome : Except RuleError FilterDraft} (decided : WildcardOutcome draft parts outcome)
    (done : outcome = .ok next) :
    (¬HoldsBracket parts.assembly ∧ ¬HoldsBracket parts.className) ∧
      (Compiles parts.translated.assembly ∧ Compiles parts.translated.className) ∧
        next = draft.append (.coverage (.ofSegments parts.translated)) := by
  -- Each check that failed would have given another outcome.
  have free : ¬HoldsBracket parts.assembly := by
    intro held
    cases (decided.assemblyReserved held).symm.trans done
  have free' : ¬HoldsBracket parts.className := by
    intro held
    cases (decided.classReserved free held).symm.trans done
  cases first : matcherOf (String.ofList parts.translated.assembly) true with
  -- And each expression that failed to compile would have given another one, too.
  | error cause => cases (decided.assemblyInvalid free free' cause first).symm.trans done
  | ok regex =>
    cases second : matcherOf (String.ofList parts.translated.className) true with
    | error cause => cases (decided.classInvalid free free' ⟨regex, first⟩ cause second).symm.trans done
    | ok regex' =>
      have added := decided.added free free' ⟨regex, first⟩ ⟨regex', second⟩
      exact ⟨⟨free, free'⟩, ⟨⟨regex, first⟩, ⟨regex', second⟩⟩, (Except.ok.inj (added.symm.trans done)).symm⟩

/-- Where the parts of a rule hold no brackets the text is a rule in no other way. -/
theorem RuleText.Splits.unique {text : List Char} {parts other : RuleText} (splits : Splits .plain text parts)
    (free : ¬HoldsBracket parts.assembly) (free' : ¬HoldsBracket parts.className)
    (also : Splits .plain text other) : other = parts := by
  have close : ∀ {before after : List Char}, HoldsBracket (before ++ ']' :: after) := fun {before _} =>
    ⟨']', List.mem_append_right before List.mem_cons_self, by decide⟩
  -- The closing bracket that the one is split at would stand in a part of the other.
  have shorter : other.assembly.length ≤ parts.assembly.length := by
    rcases splits.overlap also with shorter | ⟨middle, _, same⟩
    · exact shorter
    · exact absurd (same ▸ close) free'
  have longer : parts.assembly.length ≤ other.assembly.length := by
    rcases also.overlap splits with longer | ⟨middle, same, _⟩
    · exact longer
    · exact absurd (same ▸ close) free
  exact also.eq_of_length splits (Nat.le_antisymm shorter longer)

/-- A rule with wildcards is malformed just if it has no parts or its assembly is blank; otherwise the checks of its
parts decide, and where it is accepted it has one pair of parts and these hold no brackets. -/
theorem FilterDraft.add_wildcard_coverage (draft : FilterDraft) (text : String) :
    (draft.add ⟨.coverage, .wildcard, text⟩ = .error (.malformed text) ↔
      (∀ parts, ¬Splits .plain text.toList parts) ∨
        ∃ parts, SplitsLast .plain text.toList parts ∧ ∀ c ∈ parts.assembly, Unicode.isBlank c = true) ∧
    (∀ parts, SplitsLast .plain text.toList parts → (¬∀ c ∈ parts.assembly, Unicode.isBlank c = true) →
      WildcardOutcome draft parts (draft.add ⟨.coverage, .wildcard, text⟩)) ∧
    ∀ next, draft.add ⟨.coverage, .wildcard, text⟩ = .ok next →
      ∃ parts, Splits .plain text.toList parts ∧ ¬HoldsBracket parts.assembly ∧ ¬HoldsBracket parts.className ∧
        ∀ other, Splits .plain text.toList other → other = parts := by
  have blank_iff : ∀ parts : RuleText, parts.isBlank = true ↔ ∀ c ∈ parts.assembly, Unicode.isBlank c = true :=
    fun _ => List.all_eq_true
  simp only [← blank_iff]
  rw [draft.add_wildcard_eq]
  cases read : RuleText.ofText? .plain text.toList with
  | none =>
    -- The text is no rule at all.
    have nothing := RuleText.ofText?_eq_none.mp read
    refine ⟨⟨fun _ => Or.inl nothing, fun _ => rfl⟩, ?_, ?_⟩
    · intro parts last
      exact absurd last.1 (nothing parts)
    · intro next done
      cases done
  | some parts =>
    have last := RuleText.ofText?_eq_some.mp read
    -- The longest assembly is a single one.
    have only : ∀ other, SplitsLast .plain text.toList other → other = parts := by
      intro other also
      exact Option.some.inj ((RuleText.ofText?_eq_some.mpr also).symm.trans read)
    by_cases blank : parts.isBlank = true
    · -- The text has parts, but its longest assembly is blank.
      simp only [blank, if_true]
      refine ⟨⟨fun _ => Or.inr ⟨parts, last, blank⟩, fun _ => trivial⟩, ?_, ?_⟩
      · intro other also filled
        rw [only other also] at filled
        exact absurd blank filled
      · intro next done
        cases done
    · -- From here on the checks of the parts decide.
      simp only [blank, if_false, Bool.false_eq_true]
      have decided := wildcards_outcome draft parts
      refine ⟨⟨?_, ?_⟩, ?_, ?_⟩
      · intro malformed
        -- None of the checks calls the text malformed.
        exact absurd malformed (decided.ne_malformed text)
      · intro malformed
        -- There are parts, and the longest assembly is not blank.
        rcases malformed with nothing | ⟨other, also, blank'⟩
        · exact absurd last.1 (nothing parts)
        · rw [only other also] at blank'
          exact absurd blank' blank
      · intro other also _
        rw [only other also]
        exact decided
      · -- A rule that is accepted has passed both checks for reserved characters.
        intro next done
        obtain ⟨⟨free, free'⟩, _⟩ := decided.of_ok done
        exact ⟨parts, last.1, free, free', fun other also => last.1.unique free free' also⟩

/-- The rule `+[a]b` is added with these two names. -/
theorem FilterDraft.add_rule_of_names :
    ({} : FilterDraft).add ⟨.coverage, .wildcard, "+[a]b"⟩ =
      .ok (({} : FilterDraft).append (.coverage (.ofSegments ⟨.inclusive, ['a'], ['b']⟩))) := by
  have read : RuleText.ofText? .plain "+[a]b".toList = some ⟨.inclusive, ['a'], ['b']⟩ := rfl
  have visible : Unicode.isBlank 'a' = false := by decide +kernel
  have filled : ¬∀ c ∈ ['a'], Unicode.isBlank c = true := by
    intro blank
    cases visible.symm.trans (blank 'a' List.mem_cons_self)
  have compiles : ∀ text ∈ [['a'], ['b']],
      (matcherOf (String.ofList text) true).toOption.isSome = true := by decide +kernel
  have found : ∀ text ∈ [['a'], ['b']], Compiles text := fun text member => exists_ok (compiles text member)
  -- The last of the checks is passed, so the rule is added.
  have decided := (({} : FilterDraft).add_wildcard_coverage "+[a]b").2.1 _
    (RuleText.ofText?_eq_some.mp read) filled
  exact decided.added (by simp [HoldsBracket]) (by simp [HoldsBracket]) (found _ (by decide)) (found _ (by decide))

/-- The longest assembly is looked at, even if a shorter one holds no bracket. -/
example : (FilterDraft.add {} ⟨.coverage, .wildcard, "+[a]b]c"⟩) = .error (.reserved "a]b" .assemblyName) := rfl

end ModuleScope
