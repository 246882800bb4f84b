import ModuleScope.Filter.Draft
import ModuleScope.Proofs.Regex.Reading

/-! The text of a rule or pattern gives expressions, and it is refused if one of them does not compile. -/

namespace ModuleScope

/-- The compiled pattern of an expression's text. -/
def Pattern.ofSegment (segment : List Char) : Pattern := (Pattern.regex (String.ofList segment)).compiled

/-- The expression compiles between anchors. -/
def Compiles (segment : List Char) : Prop := ∃ regex, matcherOf (String.ofList segment) true = .ok regex

/-- A pattern whose expression compiles between anchors is kept. -/
theorem Pattern.check_compiles {segment : List Char} (compiles : Compiles segment) :
    (Pattern.regex (String.ofList segment)).check = .ok (Pattern.ofSegment segment) := by
  -- Compiling a pattern does not change what it compiles to.
  obtain ⟨regex, found⟩ := compiles
  have outcome : (Pattern.regex (String.ofList segment)).compiled.matcher = .ok regex := by
    rw [Pattern.matcher_eq]
    exact found
  simp only [Pattern.check, outcome, Pattern.ofSegment]

/-- A pattern whose expression does not compile between anchors is refused. -/
theorem Pattern.check_fails {segment : List Char} {cause : Regex.SyntaxError}
    (fails : matcherOf (String.ofList segment) true = .error cause) :
    (Pattern.regex (String.ofList segment)).check = .error (.invalidPattern (String.ofList segment) cause) := by
  have outcome : (Pattern.regex (String.ofList segment)).compiled.matcher = .error cause := by
    rw [Pattern.matcher_eq]
    exact fails
  simp only [Pattern.check, outcome]
  rfl

/-- A pattern that is kept has an expression that compiles between anchors. -/
theorem Pattern.check_eq_ok {segment : List Char} {pattern : Pattern} :
    (Pattern.regex (String.ofList segment)).check = .ok pattern ↔
      pattern = Pattern.ofSegment segment ∧ Compiles segment := by
  cases outcome : matcherOf (String.ofList segment) true with
  | error cause => simp [Pattern.check_fails outcome, Compiles, outcome]
  | ok regex => simp [Pattern.check_compiles ⟨regex, outcome⟩, Compiles, outcome, eq_comm]

/-- The rule of the expressions for assemblies and for classes. -/
def CoverageRule.ofSegments (parts : RuleText) : CoverageRule :=
  ⟨parts.polarity, Pattern.ofSegment parts.assembly, Pattern.ofSegment parts.className⟩

/-- A rule is kept just if both of its expressions compile between anchors. -/
theorem CoverageRule.ofExpressions_eq_ok {parts : RuleText} {rule : CoverageRule} :
    ofExpressions parts.polarity parts.assembly parts.className = .ok rule ↔
      rule = ofSegments parts ∧ Compiles parts.assembly ∧ Compiles parts.className := by
  constructor
  · intro done
    obtain ⟨first, checked, done⟩ := bind_eq_ok done
    obtain ⟨second, checked', last⟩ := bind_eq_ok done
    -- Each check that has been passed gives its pattern back.
    obtain ⟨rfl, compiles⟩ := Pattern.check_eq_ok.mp checked
    obtain ⟨rfl, compiles'⟩ := Pattern.check_eq_ok.mp checked'
    exact ⟨(Except.ok.inj last).symm, compiles, compiles'⟩
  · intro kept
    obtain ⟨rfl, first, second⟩ := kept
    simp only [ofExpressions, Pattern.check_compiles first, Pattern.check_compiles second]
    rfl

/-- A rule is refused for its assembly if that does not compile. -/
theorem CoverageRule.ofExpressions_assembly {parts : RuleText} {cause : Regex.SyntaxError}
    (fails : matcherOf (String.ofList parts.assembly) true = .error cause) :
    ofExpressions parts.polarity parts.assembly parts.className =
      .error (.invalidPattern (String.ofList parts.assembly) cause) := by
  rw [ofExpressions, Pattern.check_fails fails]
  rfl

/-- A rule is refused for its class if that does not compile and the assembly does. -/
theorem CoverageRule.ofExpressions_className {parts : RuleText} {cause : Regex.SyntaxError}
    (compiles : Compiles parts.assembly) (fails : matcherOf (String.ofList parts.className) true = .error cause) :
    ofExpressions parts.polarity parts.assembly parts.className =
      .error (.invalidPattern (String.ofList parts.className) cause) := by
  rw [ofExpressions, Pattern.check_compiles compiles, Pattern.check_fails fails]
  rfl

namespace RuleText

/-- The parts of a rule with wildcards, as expressions, unless one of them holds a reserved character. -/
def expressions (parts : RuleText) : Except RuleError RuleText := do
  -- Both parts are checked before either is compiled.
  let assembly ← Pattern.wildcard (String.ofList parts.assembly) .assemblyName
  let className ← Pattern.wildcard (String.ofList parts.className) .className
  .ok ⟨parts.polarity, assembly.expression.toList, className.expression.toList⟩

/-- The parts of a rule with wildcards in the notation of expressions. -/
def translated (parts : RuleText) : RuleText :=
  ⟨parts.polarity, Wildcard.expression parts.assembly, Wildcard.expression parts.className⟩

/-- Parts that are not refused are translated. -/
theorem expressions_eq_ok {parts found : RuleText} (made : parts.expressions = .ok found) :
    found = parts.translated := by
  -- A pattern for wildcard text keeps the translated text.
  have kept : ∀ {kind : NameKind} {text : List Char} {pattern : Pattern},
      Pattern.wildcard (String.ofList text) kind = .ok pattern →
        pattern.expression.toList = Wildcard.expression text := by
    intro kind text pattern made
    unfold Pattern.wildcard at made
    split at made
    · cases made
    · cases made
      simp [Pattern.regex]
  obtain ⟨assembly, first, made⟩ := bind_eq_ok made
  obtain ⟨className, second, last⟩ := bind_eq_ok made
  rw [kept first, kept second] at last
  exact (Except.ok.inj last).symm

/-- The parts of a text that is written with wildcards, as expressions. -/
def ofWildcard (text : String) : Except RuleError RuleText := do
  match ← parse .plain text with
  | none => .error (.malformed text)
  | some parts => parts.expressions

/-- The parts of a text that is written with regular expressions. -/
def ofRegex (text : String) : Except RuleError RuleText := do
  -- A text in the shape with parentheses could be split in the other shape, too.
  match ← parse .parenthesised text with
  | some parts => .ok parts
  | none =>
    match ← parse .plain text with
    | none => .error (.malformed text)
    | some parts => .ok parts

end RuleText

/-- A rule that is written with wildcards is made of the expressions of its parts. -/
theorem CoverageRule.ofWildcard_eq (text : String) :
    CoverageRule.ofWildcard text =
      RuleText.ofWildcard text >>= fun parts => ofExpressions parts.polarity parts.assembly parts.className := by
  -- What is found out before the rule is kept is gathered first.
  unfold CoverageRule.ofWildcard RuleText.ofWildcard
  cases RuleText.parse .plain text with
  | error error => rfl
  | ok found =>
    cases found with
    | none => rfl
    | some parts =>
      simp only [RuleText.expressions, Bind.bind, Except.bind]
      cases Pattern.wildcard (String.ofList parts.assembly) .assemblyName with
      | error error => rfl
      | ok assembly => cases Pattern.wildcard (String.ofList parts.className) .className <;> rfl

/-- A rule that is written with regular expressions is made of them. -/
theorem CoverageRule.ofRegex_eq (text : String) :
    CoverageRule.ofRegex text =
      RuleText.ofRegex text >>= fun parts => ofExpressions parts.polarity parts.assembly parts.className := by
  unfold CoverageRule.ofRegex RuleText.ofRegex
  cases RuleText.parse .parenthesised text with
  | error error => rfl
  | ok found =>
    cases found with
    -- With parentheses the text has been read already.
    | some parts => rfl
    | none =>
      simp only [Bind.bind, Except.bind]
      cases RuleText.parse .plain text with
      | error error => rfl
      | ok found => cases found <;> rfl

/-- The expression of the text of a pattern. -/
def segmentOf (form : RuleForm) (kind : NameKind) (text : String) : Except RuleError (List Char) :=
  match form with
  | .wildcard => (Pattern.wildcard text kind).map (·.expression.toList)
  | .regex => .ok text.toList

namespace FilterPart

/-- The pattern of a text is the checked pattern of its expression. -/
theorem patternOf_eq (form : RuleForm) (kind : NameKind) (text : String) :
    patternOf form kind text =
      segmentOf form kind text >>= fun segment => (Pattern.regex (String.ofList segment)).check := by
  cases form with
  | wildcard =>
    simp only [patternOf, segmentOf, Pattern.wildcard]
    split
    · rfl
    · simp [Except.map, Pattern.regex, Bind.bind, Except.bind]
  | regex => simp [patternOf, segmentOf, Bind.bind, Except.bind]

/-- A text is a pattern just if its expression compiles between anchors. -/
theorem patternOf_eq_ok {form : RuleForm} {kind : NameKind} {text : String} {pattern : Pattern} :
    patternOf form kind text = .ok pattern ↔
      ∃ segment, segmentOf form kind text = .ok segment ∧ Compiles segment ∧
        pattern = Pattern.ofSegment segment := by
  rw [patternOf_eq]
  constructor
  · intro made
    obtain ⟨segment, read, checked⟩ := bind_eq_ok made
    -- The pattern that passed the check is that of the segment.
    obtain ⟨same, compiles⟩ := Pattern.check_eq_ok.mp checked
    exact ⟨segment, read, compiles, same⟩
  · intro found
    obtain ⟨segment, read, compiles, rfl⟩ := found
    rw [read]
    exact Pattern.check_compiles compiles

end FilterPart

/-- The parts of the text of a rule, as expressions. -/
def RuleText.ofForm (form : RuleForm) (text : String) : Except RuleError RuleText :=
  match form with
  | .wildcard => RuleText.ofWildcard text
  | .regex => RuleText.ofRegex text

/-- The expressions of a text, unless it is refused before any of them is compiled. -/
def RuleEntry.segments (entry : RuleEntry) : Except RuleError (List (List Char)) :=
  match entry.target with
  | .coverage => (RuleText.ofForm entry.form entry.text).map fun parts => [parts.assembly, parts.className]
  | .attributes => (segmentOf entry.form .attributeName entry.text).map fun segment => [segment]
  | .files => (segmentOf entry.form .fileName entry.text).map fun segment => [segment]

namespace FilterPart

/-- The patterns of a rule or pattern. -/
def patterns : FilterPart → List Pattern
  | .coverage rule => [rule.assembly, rule.className]
  | .attribute pattern => [pattern]
  | .file pattern => [pattern]

/-- The rule of a text is made of the expressions of its parts. -/
theorem ofEntry_coverage (form : RuleForm) (text : String) :
    ofEntry ⟨.coverage, form, text⟩ =
      RuleText.ofForm form text >>= fun parts =>
        (CoverageRule.ofExpressions parts.polarity parts.assembly parts.className).map .coverage := by
  -- Keeping a rule and calling it a part are put in one step.
  have gather : ∀ read : Except RuleError RuleText,
      ((read >>= fun parts => CoverageRule.ofExpressions parts.polarity parts.assembly parts.className) >>=
        fun rule => .ok (FilterPart.coverage rule)) = read >>= fun parts =>
          (CoverageRule.ofExpressions parts.polarity parts.assembly parts.className).map FilterPart.coverage := by
    intro read
    cases read with
    | error error => rfl
    | ok parts =>
      simp only [Bind.bind, Except.bind]
      cases CoverageRule.ofExpressions parts.polarity parts.assembly parts.className <;> rfl
  cases form with
  | wildcard =>
    rw [RuleText.ofForm, ← gather, ← CoverageRule.ofWildcard_eq]
    rfl
  | regex =>
    rw [RuleText.ofForm, ← gather, ← CoverageRule.ofRegex_eq]
    rfl

/-- A text is a rule just if both of its expressions compile between anchors. -/
theorem ofEntry_coverage_eq_ok {form : RuleForm} {text : String} {part : FilterPart} :
    ofEntry ⟨.coverage, form, text⟩ = .ok part ↔
      ∃ parts : RuleText, RuleText.ofForm form text = .ok parts ∧ Compiles parts.assembly ∧
        Compiles parts.className ∧ part = .coverage (.ofSegments parts) := by
  rw [ofEntry_coverage]
  constructor
  · intro made
    obtain ⟨parts, read, kept⟩ := bind_eq_ok made
    cases outcome : CoverageRule.ofExpressions parts.polarity parts.assembly parts.className with
    | error error =>
      rw [outcome] at kept
      cases kept
    | ok rule =>
      rw [outcome] at kept
      cases kept
      -- A rule that is kept has passed both checks.
      obtain ⟨rfl, first, second⟩ := CoverageRule.ofExpressions_eq_ok.mp outcome
      exact ⟨parts, read, first, second, rfl⟩
  · intro found
    obtain ⟨parts, read, first, second, rfl⟩ := found
    have made : CoverageRule.ofExpressions parts.polarity parts.assembly parts.className = _ :=
      CoverageRule.ofExpressions_eq_ok.mpr ⟨rfl, first, second⟩
    rw [read]
    exact congrArg (Except.map FilterPart.coverage) made

/-- What is made of a text consists of the patterns of its expressions, all of which compile between anchors. -/
theorem ofEntry_patterns {entry : RuleEntry} {part : FilterPart} (done : ofEntry entry = .ok part) :
    ∃ segments, entry.segments = .ok segments ∧ (∀ segment ∈ segments, Compiles segment) ∧
      part.patterns = segments.map Pattern.ofSegment := by
  -- A rule has two expressions, a pattern has one.
  obtain ⟨target, form, text⟩ := entry
  cases target with
  | coverage =>
    obtain ⟨parts, read, first, second, rfl⟩ := ofEntry_coverage_eq_ok.mp done
    refine ⟨[parts.assembly, parts.className], by simp [RuleEntry.segments, read, Except.map], ?_, rfl⟩
    simpa using ⟨first, second⟩
  | attributes =>
    obtain ⟨pattern, made, last⟩ := bind_eq_ok done
    cases last
    obtain ⟨segment, read, compiles, rfl⟩ := patternOf_eq_ok.mp made
    exact ⟨[segment], by simp [RuleEntry.segments, read, Except.map], by simpa using compiles, rfl⟩
  | files =>
    obtain ⟨pattern, made, last⟩ := bind_eq_ok done
    cases last
    obtain ⟨segment, read, compiles, rfl⟩ := patternOf_eq_ok.mp made
    exact ⟨[segment], by simp [RuleEntry.segments, read, Except.map], by simpa using compiles, rfl⟩

/-- A text all of whose expressions compile between anchors is a rule or pattern. -/
theorem ofEntry_compiles {entry : RuleEntry} {segments : List (List Char)} (read : entry.segments = .ok segments)
    (each : ∀ segment ∈ segments, Compiles segment) : ∃ part, ofEntry entry = .ok part := by
  -- The only expression of a pattern is among those that compile.
  have single : ∀ form kind text, (segmentOf form kind text).map (fun segment => [segment]) = .ok segments →
      ∃ pattern, patternOf form kind text = .ok pattern := by
    intro form kind text read
    cases outcome : segmentOf form kind text with
    | error error =>
      rw [outcome] at read
      cases read
    | ok segment =>
      rw [outcome] at read
      cases read
      exact ⟨_, patternOf_eq_ok.mpr ⟨segment, outcome, each segment List.mem_cons_self, rfl⟩⟩
  obtain ⟨target, form, text⟩ := entry
  cases target with
  | coverage =>
    cases outcome : RuleText.ofForm form text with
    -- A text without segments is excluded.
    | error error => simp [RuleEntry.segments, outcome, Except.map] at read
    | ok parts =>
      have same : [parts.assembly, parts.className] = segments := by
        simpa [RuleEntry.segments, outcome, Except.map] using read
      subst same
      have both : Compiles parts.assembly ∧ Compiles parts.className := by simpa using each
      exact ⟨_, ofEntry_coverage_eq_ok.mpr ⟨parts, outcome, both.1, both.2, rfl⟩⟩
  | attributes =>
    obtain ⟨pattern, made⟩ := single form .attributeName text read
    exact ⟨_, congrArg (· >>= fun pattern => Except.ok (FilterPart.attribute pattern)) made⟩
  | files =>
    obtain ⟨pattern, made⟩ := single form .fileName text read
    exact ⟨_, congrArg (· >>= fun pattern => Except.ok (FilterPart.file pattern)) made⟩

end FilterPart

end ModuleScope
