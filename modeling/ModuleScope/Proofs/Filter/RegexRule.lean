import ModuleScope.Proofs.Filter.Display
import ModuleScope.Proofs.Filter.RuleText
import ModuleScope.Proofs.Filter.Segments

/-! What becomes of a coverage rule that is written with regular expressions: the shape that it is read in, and the
checks of its parts. -/

namespace ModuleScope

namespace RuleText

/-- The text is read in this shape and as these parts: the shape with parentheses is preferred, and then the longest
assembly. -/
inductive Chosen (text : List Char) : Shape → RuleText → Prop
  /-- The text has parts in parentheses. -/
  | parenthesised {parts : RuleText} (last : SplitsLast .parenthesised text parts) : Chosen text .parenthesised parts
  /-- The text has parts, but none in parentheses. -/
  | plain {parts : RuleText} (last : SplitsLast .plain text parts)
    (bare : ∀ other, ¬Splits .parenthesised text other) : Chosen text .plain parts

variable {text : List Char} {shape other : Shape} {parts parts' : RuleText}

/-- What is read is the text written in that shape. -/
theorem Chosen.last (chosen : Chosen text shape parts) : SplitsLast shape text parts := by
  cases chosen with
  | parenthesised last => exact last
  | plain last _ => exact last

/-- A text is read in one way. -/
theorem Chosen.unique (one : Chosen text shape parts) (also : Chosen text other parts') :
    shape = other ∧ parts = parts' := by
  -- In one shape there is only one longest assembly.
  have same : ∀ {shape : Shape}, SplitsLast shape text parts → SplitsLast shape text parts' → parts = parts' :=
    fun first second => Option.some.inj ((ofText?_eq_some.mpr first).symm.trans (ofText?_eq_some.mpr second))
  cases one with
  | parenthesised first =>
    cases also with
    | parenthesised second => exact ⟨rfl, same first second⟩
    | plain _ bare => exact absurd first.1 (bare parts)
  | plain first bare =>
    cases also with
    | parenthesised second => exact absurd second.1 (bare parts')
    | plain second _ => exact ⟨rfl, same first second⟩

/-- A text is read in some way, unless it has no parts in either shape. -/
theorem exists_chosen (text : List Char) :
    (∃ shape parts, Chosen text shape parts) ∨ ∀ shape parts, ¬Splits shape text parts := by
  -- The plain shape counts only if the one with parentheses is of no use.
  cases inside : ofText? .parenthesised text with
  | some parts => exact Or.inl ⟨_, parts, .parenthesised (ofText?_eq_some.mp inside)⟩
  | none =>
    have bare := ofText?_eq_none.mp inside
    cases outside : ofText? .plain text with
    | some parts => exact Or.inl ⟨_, parts, .plain (ofText?_eq_some.mp outside) bare⟩
    | none =>
      refine Or.inr fun shape => ?_
      cases shape with
      | plain => exact ofText?_eq_none.mp outside
      | parenthesised => exact bare

/-- The parts in a shape are parsed unless the assembly is blank. -/
theorem parse_of_last {text : String} (last : SplitsLast shape text.toList parts) :
    parse shape text = if parts.isBlank then .error (.malformed text) else .ok (some parts) := by
  rw [parse, ofText?_eq_some.mpr last]

/-- The parts that a text is read as are its expressions; if the assembly is blank no other shape is tried. -/
theorem ofRegex_of_chosen {text : String} (chosen : Chosen text.toList shape parts) :
    ofRegex text = if parts.isBlank then .error (.malformed text) else .ok parts := by
  -- In either shape a blank assembly is an error by itself.
  have refused : ∀ blank : parts.isBlank = true, ∀ shape, SplitsLast shape text.toList parts →
      parse shape text = .error (.malformed text) := by
    intro blank shape last
    rw [parse_of_last last, if_pos blank]
  have found : ∀ filled : ¬parts.isBlank = true, ∀ shape, SplitsLast shape text.toList parts →
      parse shape text = .ok (some parts) := by
    intro filled shape last
    rw [parse_of_last last, if_neg filled]
  cases chosen with
  | parenthesised last =>
    -- An error ends the reading, so the second shape is not looked at.
    by_cases blank : parts.isBlank = true
    · rw [if_pos blank, ofRegex, refused blank _ last]
      rfl
    · rw [if_neg blank, ofRegex, found blank _ last]
      rfl
  | plain last bare =>
    -- Only here the second shape is looked at.
    by_cases blank : parts.isBlank = true
    · rw [if_pos blank, ofRegex, parse_eq_none.mpr bare, refused blank _ last]
      rfl
    · rw [if_neg blank, ofRegex, parse_eq_none.mpr bare, found blank _ last]
      rfl

/-- A text that has no parts in either shape has no expressions. -/
theorem ofRegex_of_unsplit {text : String} (nothing : ∀ shape parts, ¬Splits shape text.toList parts) :
    ofRegex text = .error (.malformed text) := by
  rw [ofRegex, parse_eq_none.mpr (nothing .parenthesised), parse_eq_none.mpr (nothing .plain)]
  rfl

end RuleText

open RuleText (Splits SplitsLast Chosen)

/-- The parts that a rule has kept. -/
def CoverageRule.text (rule : CoverageRule) : RuleText :=
  ⟨rule.polarity, rule.assembly.expression.toList, rule.className.expression.toList⟩

/-- A rule keeps the parts that it was made of. -/
@[simp] theorem CoverageRule.text_ofSegments (parts : RuleText) : (ofSegments parts).text = parts := by
  simp [text, ofSegments, Pattern.ofSegment, Pattern.compiled, Pattern.regex]

/-- What becomes of a rule with the given expressions, of which that for assemblies is not blank: the first that does
not compile decides. -/
structure RegexOutcome (draft : FilterDraft) (parts : RuleText) (outcome : Except RuleError FilterDraft) : Prop where
  /-- The expression for assemblies does not compile. -/
  assemblyInvalid : ∀ cause, matcherOf (String.ofList parts.assembly) true = .error cause →
    outcome = .error (.invalidPattern (String.ofList parts.assembly) cause)
  /-- It does, and the expression for classes does not. -/
  classInvalid : Compiles parts.assembly →
    ∀ cause, matcherOf (String.ofList parts.className) true = .error cause →
      outcome = .error (.invalidPattern (String.ofList parts.className) cause)
  /-- Both do, and the rule is added. -/
  added : Compiles parts.assembly → Compiles parts.className →
    outcome = .ok (draft.append (.coverage (.ofSegments parts)))

/-- The expressions of a rule are compiled one after the other, and then the rule is added. -/
theorem expressions_outcome (draft : FilterDraft) (parts : RuleText) :
    RegexOutcome draft parts ((CoverageRule.ofExpressions parts.polarity parts.assembly parts.className).map
      fun rule => draft.append (.coverage rule)) where
  assemblyInvalid _ fails := congrArg (Except.map _) (CoverageRule.ofExpressions_assembly fails)
  classInvalid compiles _ fails := congrArg (Except.map _) (CoverageRule.ofExpressions_className compiles fails)
  added compiles compiles' :=
    congrArg (Except.map _) (CoverageRule.ofExpressions_eq_ok.mpr ⟨rfl, compiles, compiles'⟩)

/-- The outcome is never that of a text that is no rule. -/
theorem RegexOutcome.ne_malformed {draft : FilterDraft} {parts : RuleText} {outcome : Except RuleError FilterDraft}
    (decided : RegexOutcome draft parts outcome) (text : String) : outcome ≠ .error (.malformed text) := by
  -- One of the three cases applies, and none of them has this outcome.
  intro same
  cases first : matcherOf (String.ofList parts.assembly) true with
  | error cause => cases (decided.assemblyInvalid cause first).symm.trans same
  | ok regex =>
    cases second : matcherOf (String.ofList parts.className) true with
    | error cause => cases (decided.classInvalid ⟨regex, first⟩ cause second).symm.trans same
    | ok regex' => cases (decided.added ⟨regex, first⟩ ⟨regex', second⟩).symm.trans same

namespace FilterDraft

variable {draft : FilterDraft} {text : String}

/-- Adding a rule with regular expressions means reading its parts, compiling them and keeping the rule. -/
theorem add_regex_eq (draft : FilterDraft) (text : String) :
    draft.add ⟨.coverage, .regex, text⟩ =
      RuleText.ofRegex text >>= fun parts =>
        (CoverageRule.ofExpressions parts.polarity parts.assembly parts.className).map
          fun rule => draft.append (.coverage rule) := by
  rw [FilterDraft.add, FilterPart.ofEntry_coverage, RuleText.ofForm]
  cases RuleText.ofRegex text with
  -- A text that has no parts is refused before anything is compiled.
  | error error => rfl
  | ok parts =>
    simp only [Bind.bind, Except.bind]
    cases CoverageRule.ofExpressions parts.polarity parts.assembly parts.className <;> rfl

/-- A text without parts is refused. -/
theorem add_regex_of_unsplit (nothing : ∀ shape parts, ¬Splits shape text.toList parts) :
    draft.add ⟨.coverage, .regex, text⟩ = .error (.malformed text) := by
  rw [add_regex_eq, RuleText.ofRegex_of_unsplit nothing]
  rfl

/-- A text that is read with a blank assembly is refused, although it may have other parts in another shape. -/
theorem add_regex_of_blank {shape : RuleText.Shape} {parts : RuleText} (chosen : Chosen text.toList shape parts)
    (blank : parts.isBlank = true) : draft.add ⟨.coverage, .regex, text⟩ = .error (.malformed text) := by
  rw [add_regex_eq, RuleText.ofRegex_of_chosen chosen, if_pos blank]
  rfl

/-- Otherwise the expressions of its parts decide. -/
theorem add_regex_of_filled {shape : RuleText.Shape} {parts : RuleText} (chosen : Chosen text.toList shape parts)
    (filled : ¬parts.isBlank = true) : RegexOutcome draft parts (draft.add ⟨.coverage, .regex, text⟩) := by
  have read : RuleText.ofRegex text = .ok parts := by rw [RuleText.ofRegex_of_chosen chosen, if_neg filled]
  rw [add_regex_eq, read]
  exact expressions_outcome draft parts

/-- A rule with regular expressions is read in the shape with parentheses if it has parts in that shape, otherwise in
the plain shape, and is malformed just if it has neither or the longest assembly in that shape is blank. Otherwise the
first of its expressions that does not compile is the error, or the rule is kept with just these parts, and the parts
in the shape give the text again. -/
theorem add_regex_coverage (draft : FilterDraft) (text : String) :
    (draft.add ⟨.coverage, .regex, text⟩ = .error (.malformed text) ↔
      (∀ shape parts, ¬Splits shape text.toList parts) ∨
        ∃ shape parts, Chosen text.toList shape parts ∧ ∀ c ∈ parts.assembly, Unicode.isBlank c = true) ∧
    (∀ shape parts, Chosen text.toList shape parts → (¬∀ c ∈ parts.assembly, Unicode.isBlank c = true) →
      RegexOutcome draft parts (draft.add ⟨.coverage, .regex, text⟩)) ∧
    ∀ next, draft.add ⟨.coverage, .regex, text⟩ = .ok next →
      ∃ shape rule, next = draft.append (.coverage rule) ∧ Chosen text.toList shape rule.text ∧
        RuleText.write shape rule.text = text.toList := by
  have blank_iff : ∀ parts : RuleText, parts.isBlank = true ↔ ∀ c ∈ parts.assembly, Unicode.isBlank c = true :=
    fun _ => List.all_eq_true
  simp only [← blank_iff]
  refine ⟨⟨fun malformed => ?_, fun malformed => ?_⟩, fun _ _ => add_regex_of_filled, fun next done => ?_⟩
  · -- A text that is read without a blank is refused for its expressions, if at all.
    rcases RuleText.exists_chosen text.toList with ⟨shape, parts, chosen⟩ | nothing
    · by_cases blank : parts.isBlank = true
      · exact Or.inr ⟨shape, parts, chosen, blank⟩
      · exact absurd malformed ((add_regex_of_filled chosen blank).ne_malformed text)
    · exact Or.inl nothing
  · -- A text without parts and one with a blank assembly are both refused as such.
    rcases malformed with nothing | ⟨shape, parts, chosen, blank⟩
    · exact add_regex_of_unsplit nothing
    · exact add_regex_of_blank chosen blank
  · -- What has been added was read somehow, and not with a blank assembly.
    obtain ⟨parts, read, _, _, rfl⟩ := add_regex_eq_ok.mp done
    rcases RuleText.exists_chosen text.toList with ⟨shape, found, chosen⟩ | nothing
    · rw [RuleText.ofRegex_of_chosen chosen] at read
      split at read <;> cases read
      refine ⟨shape, .ofSegments parts, rfl, ?_, ?_⟩
      · rwa [CoverageRule.text_ofSegments]
      · rw [CoverageRule.text_ofSegments]
        exact chosen.last.1.2
    · cases (add_regex_of_unsplit nothing).symm.trans done

/-- The rule `-[(a)](b)` is read without its parentheses, although it has parts with them as well. -/
theorem add_rule_in_parentheses :
    Splits .plain "-[(a)](b)".toList ⟨.exclusive, "(a)".toList, "(b)".toList⟩ ∧
      ({} : FilterDraft).add ⟨.coverage, .regex, "-[(a)](b)"⟩ =
        .ok (({} : FilterDraft).append (.coverage (.ofSegments ⟨.exclusive, ['a'], ['b']⟩))) := by
  have read : RuleText.ofText? .parenthesised "-[(a)](b)".toList = some ⟨.exclusive, ['a'], ['b']⟩ := rfl
  have visible : Unicode.isBlank 'a' = false := by decide +kernel
  have filled : ¬∀ c ∈ ['a'], Unicode.isBlank c = true := by
    intro blank
    cases visible.symm.trans (blank 'a' List.mem_cons_self)
  have assembly : Compiles ['a'] := exists_ok (by decide +kernel)
  have className : Compiles ['b'] := exists_ok (by decide +kernel)
  -- The shape with parentheses is the one that is chosen.
  have decided := (({} : FilterDraft).add_regex_coverage "-[(a)](b)").2.1 _ _
    (.parenthesised (RuleText.ofText?_eq_some.mp read)) filled
  exact ⟨⟨⟨by decide, by decide, by decide, by decide⟩, rfl⟩, decided.added assembly className⟩

/-- A blank assembly in parentheses is not read with them instead. -/
example : FilterDraft.add {} ⟨.coverage, .regex, "-[( )](b)"⟩ = .error (.malformed "-[( )](b)") := rfl

end FilterDraft

end ModuleScope
