import ModuleScope.Proofs.Filter.RegexRule
import ModuleScope.Proofs.Pattern.Grouped
import ModuleScope.Proofs.Regex.Closed

/-! When a rule that is read without its parentheses says the same as the rule that keeps them. -/

namespace ModuleScope

open Regex (IsExpression ofText groupedText)
open RuleText (Splits SplitsLast Chosen)

/-- The parts of a rule, each in parentheses. -/
def RuleText.grouped (parts : RuleText) : RuleText :=
  ⟨parts.polarity, groupedText parts.assembly, groupedText parts.className⟩

/-- In the plain shape the parts in parentheses are the text of the shape with parentheses. -/
theorem RuleText.write_grouped (parts : RuleText) : write .plain parts.grouped = write .parenthesised parts := by
  simp [write, grouped, groupedText, Shape.opening, Shape.middle, Shape.closing]

/-- The parts in parentheses are parts of the text in the plain shape. -/
theorem RuleText.splits_grouped {text : List Char} {inner : RuleText} (inside : Splits .parenthesised text inner) :
    Splits .plain text inner.grouped := by
  obtain ⟨⟨_, _, oneLine, oneLine'⟩, written⟩ := inside
  refine ⟨⟨List.cons_ne_nil _ _, List.cons_ne_nil _ _, ?_, ?_⟩, (write_grouped inner).trans written⟩
  · simp [grouped, groupedText, oneLine]
  · simp [grouped, groupedText, oneLine']

/-- Where the parts in parentheses are expressions and the assembly of the plain shape compiles, the plain shape has the
same parts and keeps the parentheses. -/
theorem RuleText.eq_grouped {text : List Char} {inner whole : RuleText} (inside : Splits .parenthesised text inner)
    (outside : SplitsLast .plain text whole) (assembly : IsExpression inner.assembly)
    (className : IsExpression inner.className) (compiles : Compiles whole.assembly) : whole = inner.grouped := by
  -- The grouped reading is a plain one, so only a later bracket could come before it.
  have kept := splits_grouped inside
  rcases kept.overlap outside.1 with short | ⟨middle, longer, split⟩
  · exact outside.1.eq_of_length kept (Nat.le_antisymm short (outside.2 _ kept))
  · -- A longer assembly would end inside the class, at a bracket of that.
    exfalso
    obtain ⟨regex, found⟩ := compiles
    rw [matcherOf_anchored, String.toList_ofList] at found
    -- The class starts with the parenthesis that was put before it, and so does what is between the brackets.
    obtain ⟨front, rfl⟩ : ∃ front, middle = '(' :: front := by
      cases middle with
      | nil => cases (List.cons.inj split).1
      | cons c front => exact ⟨front, by rw [(List.cons.inj split).1]⟩
    have inner' : inner.className ++ [')'] = front ++ ']' :: whole.className := (List.cons.inj split).2
    -- Both end with the class, so the last parenthesis is the end of the class that the plain shape reads.
    obtain ⟨back, same⟩ : ∃ back, inner.className = front ++ ']' :: back := by
      refine ⟨whole.className.dropLast, ?_⟩
      rw [← List.dropLast_concat_getLast outside.1.1.2.1, ← List.cons_append, ← List.append_assoc] at inner'
      exact (List.append_inj' inner' rfl).1
    have text : whole.assembly = '(' :: (inner.assembly ++ ')' :: ']' :: '(' :: front) := by
      rw [longer]
      simp [grouped, groupedText]
    rw [text] at found
    exact Regex.not_compiles_across assembly (same ▸ className) (same ▸ inside.1.2.2.2) regex (ofText_of_compile found)

/-- An expression compiles between anchors if it does in parentheses, and its pattern matches the same names. -/
theorem grouped_segment {segment : List Char} (valid : IsExpression segment)
    (compiles : Compiles (groupedText segment)) :
    Compiles segment ∧
      ∀ name, (Pattern.ofSegment segment).isMatch name = (Pattern.ofSegment (groupedText segment)).isMatch name := by
  obtain ⟨regex, read⟩ := valid
  obtain ⟨whole, found⟩ := compiles
  have built : (Pattern.ofSegment (groupedText segment)).matcher = .ok whole :=
    (Pattern.matcher_eq _).trans found
  rw [matcherOf_anchored, String.toList_ofList] at found
  -- Both with the parentheses and without them the expression is complete.
  obtain ⟨grouped, anchored⟩ := compile_of_grouped read found
  have bare : matcherOf (String.ofList segment) true = .ok (Regex.between regex) := by
    rw [matcherOf_anchored, String.toList_ofList]
    exact anchored
  have built' : (Pattern.ofSegment segment).matcher = .ok (Regex.between regex) :=
    (Pattern.matcher_eq _).trans bare
  refine ⟨⟨_, bare⟩, fun name => ?_⟩
  have read' : ofText (Pattern.ofSegment segment).expression.toList = .ok regex :=
    (congrArg ofText String.toList_ofList).trans read
  have grouped' : ofText (Pattern.ofSegment (groupedText segment)).expression.toList = .ok (.capture regex) :=
    (congrArg ofText String.toList_ofList).trans grouped
  rw [Bool.eq_iff_iff, Pattern.isMatch_iff_spans rfl read' built', Pattern.isMatch_iff_spans rfl grouped' built]
  exact Iff.rfl

/-- A text that is refused alone for another reason than a group that it does not open does not compile. -/
theorem matcherOf_of_refused {segment : List Char} {error : Regex.SyntaxError}
    (failed : ofText segment = .error error) (other : error ≠ .unopenedGroup) :
    ∃ cause, matcherOf (String.ofList segment) true = .error cause := by
  cases outcome : matcherOf (String.ofList segment) true with
  | error cause => exact ⟨cause, rfl⟩
  | ok regex =>
    rw [matcherOf_anchored, String.toList_ofList] at outcome
    exact absurd (ofText_of_compile outcome) (Regex.anchored_invalid failed other regex)

/-- A text that has parts in parentheses is read without them, whatever it says in the plain shape. A blank assembly
in parentheses is refused, and so is a part that alone is no expression, groups that it does not open left aside.
Where both parts are expressions, the rule says the same of every name as the rule of the plain shape. -/
theorem FilterDraft.add_regex_readings (draft : FilterDraft) {text : String} {inner whole : RuleText}
    {kept : CoverageRule} (inside : SplitsLast .parenthesised text.toList inner)
    (outside : SplitsLast .plain text.toList whole)
    (made : CoverageRule.ofExpressions whole.polarity whole.assembly whole.className = .ok kept) :
    ((∀ c ∈ inner.assembly, Unicode.isBlank c = true) →
      draft.add ⟨.coverage, .regex, text⟩ = .error (.malformed text)) ∧
    ((¬∀ c ∈ inner.assembly, Unicode.isBlank c = true) →
      ∀ segment ∈ [inner.assembly, inner.className], ∀ error, ofText segment = .error error →
        error ≠ .unopenedGroup →
          ∃ expression cause, draft.add ⟨.coverage, .regex, text⟩ = .error (.invalidPattern expression cause)) ∧
    ((¬∀ c ∈ inner.assembly, Unicode.isBlank c = true) → IsExpression inner.assembly →
      IsExpression inner.className →
        ∃ rule, draft.add ⟨.coverage, .regex, text⟩ = .ok (draft.append (.coverage rule)) ∧
          ∀ name, rule.coversAssembly name = kept.coversAssembly name ∧
            rule.coversClass name = kept.coversClass name) := by
  have blank_iff : inner.isBlank = true ↔ ∀ c ∈ inner.assembly, Unicode.isBlank c = true := List.all_eq_true
  rw [← blank_iff]
  have chosen : Chosen text.toList .parenthesised inner := .parenthesised inside
  refine ⟨add_regex_of_blank chosen, fun filled => ?_, fun filled => ?_⟩
  · intro segment member error failed other
    have decided : RegexOutcome draft inner (draft.add ⟨.coverage, .regex, text⟩) :=
      add_regex_of_filled chosen filled
    -- A part that is refused alone is refused between anchors, too.
    obtain ⟨cause, refused⟩ := matcherOf_of_refused failed other
    cases first : matcherOf (String.ofList inner.assembly) true with
    | error cause' => exact ⟨_, cause', decided.assemblyInvalid cause' first⟩
    | ok regex =>
      -- The assembly compiles, so it is the class that was refused.
      simp only [List.mem_cons, List.not_mem_nil, or_false] at member
      rcases member with rfl | rfl
      · cases first.symm.trans refused
      · exact ⟨_, cause, decided.classInvalid ⟨regex, first⟩ cause refused⟩
  · intro assembly className
    obtain ⟨rfl, first, second⟩ := CoverageRule.ofExpressions_eq_ok.mp made
    -- So the plain reading is the one with the parentheses.
    obtain rfl := RuleText.eq_grouped inside.1 outside assembly className first
    obtain ⟨compiles, assemblies⟩ := grouped_segment assembly first
    obtain ⟨compiles', classes⟩ := grouped_segment className second
    refine ⟨.ofSegments inner, (add_regex_of_filled chosen filled).added compiles compiles', fun name => ?_⟩
    exact ⟨congrArg inner.polarity.verdict (assemblies name), congrArg inner.polarity.verdict (classes name)⟩

namespace FilterDraft

/-- The rule `+[(a)](bc|d)` says without its parentheses what it says with them. -/
theorem add_alternative_in_parentheses :
    SplitsLast .parenthesised "+[(a)](bc|d)".toList ⟨.inclusive, ['a'], ['b', 'c', '|', 'd']⟩ ∧
      SplitsLast .plain "+[(a)](bc|d)".toList ⟨.inclusive, groupedText ['a'], groupedText ['b', 'c', '|', 'd']⟩ ∧
        ∃ kept rule, CoverageRule.ofExpressions .inclusive (groupedText ['a']) (groupedText ['b', 'c', '|', 'd']) =
            .ok kept ∧
          ({} : FilterDraft).add ⟨.coverage, .regex, "+[(a)](bc|d)"⟩ =
            .ok (({} : FilterDraft).append (.coverage rule)) ∧
          ∀ name, rule.coversAssembly name = kept.coversAssembly name ∧
            rule.coversClass name = kept.coversClass name := by
  have inside : RuleText.ofText? .parenthesised "+[(a)](bc|d)".toList =
      some ⟨.inclusive, ['a'], ['b', 'c', '|', 'd']⟩ := rfl
  have outside : RuleText.ofText? .plain "+[(a)](bc|d)".toList =
      some ⟨.inclusive, groupedText ['a'], groupedText ['b', 'c', '|', 'd']⟩ := rfl
  have visible : Unicode.isBlank 'a' = false := by decide +kernel
  have filled : ¬∀ c ∈ ['a'], Unicode.isBlank c = true := by
    intro blank
    cases visible.symm.trans (blank 'a' List.mem_cons_self)
  have assembly : IsExpression ['a'] := exists_ok (by decide +kernel)
  have className : IsExpression ['b', 'c', '|', 'd'] := exists_ok (by decide +kernel)
  obtain ⟨kept, made⟩ : ∃ kept, CoverageRule.ofExpressions .inclusive (groupedText ['a'])
      (groupedText ['b', 'c', '|', 'd']) = .ok kept := exists_ok (by decide +kernel)
  have decided := ({} : FilterDraft).add_regex_readings (RuleText.ofText?_eq_some.mp inside)
    (RuleText.ofText?_eq_some.mp outside) made
  obtain ⟨rule, added, verdicts⟩ := decided.2.2 filled assembly className
  exact ⟨RuleText.ofText?_eq_some.mp inside, RuleText.ofText?_eq_some.mp outside, kept, rule, made, added, verdicts⟩

/-- Rules that keep their parentheses are made of their parts, while the texts are refused or read as other rules:
a blank in parentheses is no assembly, the mark of a special group is no expression without its parenthesis, and the
parts in parentheses may end at another place. -/
theorem readings_differ :
    ((∃ kept, CoverageRule.ofExpressions .inclusive "( )".toList "(b)".toList = .ok kept) ∧
      SplitsLast .plain "+[( )](b)".toList ⟨.inclusive, "( )".toList, "(b)".toList⟩ ∧
        ({} : FilterDraft).add ⟨.coverage, .regex, "+[( )](b)"⟩ = .error (.malformed "+[( )](b)")) ∧
    ((∃ kept, CoverageRule.ofExpressions .inclusive "(?:a)".toList "(b)".toList = .ok kept) ∧
      SplitsLast .plain "+[(?:a)](b)".toList ⟨.inclusive, "(?:a)".toList, "(b)".toList⟩ ∧
        ({} : FilterDraft).add ⟨.coverage, .regex, "+[(?:a)](b)"⟩ =
          .error (.invalidPattern "?:a" .missingOperand)) ∧
    ((∃ kept, CoverageRule.ofExpressions .inclusive "(a)](?:b)".toList "c(d)".toList = .ok kept) ∧
      SplitsLast .plain "+[(a)](?:b)]c(d)".toList ⟨.inclusive, "(a)](?:b)".toList, "c(d)".toList⟩ ∧
        ({} : FilterDraft).add ⟨.coverage, .regex, "+[(a)](?:b)]c(d)"⟩ =
          .error (.invalidPattern "?:b)]c(d" .missingOperand)) := by
  refine ⟨⟨exists_ok (by decide +kernel), RuleText.ofText?_eq_some.mp rfl, rfl⟩,
    ⟨exists_ok (by decide +kernel), RuleText.ofText?_eq_some.mp rfl, rfl⟩,
    ⟨exists_ok (by decide +kernel), RuleText.ofText?_eq_some.mp rfl, rfl⟩⟩

end FilterDraft

end ModuleScope
