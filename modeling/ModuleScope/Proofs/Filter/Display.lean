import ModuleScope.Proofs.Filter.RuleText
import ModuleScope.Proofs.Filter.Segments

/-! When the text that a coverage rule is displayed as is read as the same rule again. -/

namespace ModuleScope

open RuleText (Splits SplitsLast)

/-- The draft has been made from an empty one by adding texts. -/
inductive FilterDraft.Reachable : FilterDraft → Prop
  /-- Nothing has been added. -/
  | empty : Reachable {}
  /-- One more text has been added. -/
  | add {draft next : FilterDraft} {entry : RuleEntry} (before : Reachable draft)
    (done : draft.add entry = .ok next) : Reachable next

/-- Adding texts one after the other keeps a draft reachable. -/
theorem FilterDraft.Reachable.addAll {draft next : FilterDraft} {entries : List RuleEntry}
    (reachable : Reachable draft) (done : draft.addAll entries = .ok next) : Reachable next := by
  induction entries generalizing draft with
  | nil =>
    cases done
    exact reachable
  | cons entry entries ih =>
    -- The draft after the first text is reachable, and the others go on from it.
    obtain ⟨middle, first, rest⟩ := bind_eq_ok done
    exact ih (reachable.add first) rest

/-- The draft of a configuration has been made by adding its texts. -/
theorem FilterDraft.reachable_of_settings {settings : FilterSettings} {draft : FilterDraft}
    (done : ofSettings settings = .ok draft) : Reachable draft :=
  Reachable.empty.addAll done

/-- The parts are the expressions of a rule that has been accepted. -/
structure RuleText.Accepted (parts : RuleText) : Prop where
  /-- Neither expression is empty or goes on to another line. -/
  formed : parts.WellFormed
  /-- The expression for assemblies is not blank. -/
  filled : parts.isBlank = false
  /-- The expression for assemblies compiles between anchors. -/
  assembly : Compiles parts.assembly
  /-- The expression for classes compiles between anchors. -/
  className : Compiles parts.className

namespace RuleText

/-- Parts that are found in a text are well formed, and the assembly is not blank. -/
theorem parse_formed {shape : Shape} {text : String} {parts : RuleText}
    (found : parse shape text = .ok (some parts)) : parts.WellFormed ∧ parts.isBlank = false :=
  have ⟨last, filled⟩ := parse_eq_some.mp found
  ⟨last.1.1, filled⟩

/-- A character with wildcards stands in its own expression. -/
theorem mem_charExpression (c : Char) : c ∈ Wildcard.charExpression c := by
  unfold Wildcard.charExpression
  split
  · rename_i same
    simp [same]
  split
  · rename_i same
    simp [same]
  split
  · rename_i same
    simp [same]
  · exact List.mem_cons_self

/-- The translation of a text with wildcards brings no line feeds. -/
theorem newline_mem_expression {text : List Char} (member : '\n' ∈ Wildcard.expression text) : '\n' ∈ text := by
  obtain ⟨c, inside, made⟩ := List.mem_flatMap.mp member
  -- No sign is translated to a line feed, and any other character stays what it is.
  unfold Wildcard.charExpression at made
  split at made
  · simp at made
  split at made
  · simp at made
  split at made
  · simp at made
  · rw [List.mem_singleton.mp made]
    exact inside

/-- The expressions of well-formed parts are well formed, and the assembly is no more blank than before. -/
theorem translated_formed {parts : RuleText} (formed : parts.WellFormed) (filled : parts.isBlank = false) :
    parts.translated.WellFormed ∧ parts.translated.isBlank = false := by
  -- No character is lost, so nothing becomes empty or blank.
  have kept : ∀ {text : List Char} {c : Char}, c ∈ text → c ∈ Wildcard.expression text :=
    fun member => List.mem_flatMap.mpr ⟨_, member, mem_charExpression _⟩
  have grown : ∀ {text : List Char}, text ≠ [] → Wildcard.expression text ≠ [] := by
    intro text some'
    obtain ⟨c, rest, rfl⟩ := List.exists_cons_of_ne_nil some'
    exact List.ne_nil_of_mem (kept List.mem_cons_self)
  obtain ⟨some', some'', oneLine, oneLine'⟩ := formed
  refine ⟨⟨grown some', grown some'', fun member => oneLine (newline_mem_expression member),
    fun member => oneLine' (newline_mem_expression member)⟩, ?_⟩
  rw [isBlank, List.all_eq_false] at filled ⊢
  obtain ⟨c, member, visible⟩ := filled
  exact ⟨c, kept member, visible⟩

/-- The expressions of a rule are well formed, and the one for assemblies is not blank. -/
theorem ofForm_formed {form : RuleForm} {text : String} {parts : RuleText}
    (read : ofForm form text = .ok parts) : parts.WellFormed ∧ parts.isBlank = false := by
  cases form with
  | wildcard =>
    -- The parts of wildcard text are translated, and those of an expression are kept.
    obtain ⟨found, parsed, read⟩ := bind_eq_ok read
    cases found with
    | none => cases read
    | some original =>
      obtain rfl := expressions_eq_ok read
      obtain ⟨formed, filled⟩ := parse_formed parsed
      exact translated_formed formed filled
  | regex =>
    obtain ⟨found, parsed, read⟩ := bind_eq_ok read
    cases found with
    | some parts' =>
      cases read
      exact parse_formed parsed
    | none =>
      obtain ⟨found, parsed', read⟩ := bind_eq_ok read
      cases found with
      | none => cases read
      | some parts' =>
        cases read
        exact parse_formed parsed'

end RuleText

/-- A rule that is made of a text has accepted parts. -/
theorem FilterPart.ofEntry_accepted {entry : RuleEntry} {rule : CoverageRule}
    (made : ofEntry entry = .ok (.coverage rule)) : ∃ parts : RuleText, parts.Accepted ∧
      rule = .ofSegments parts := by
  obtain ⟨target, form, text⟩ := entry
  cases target with
  | coverage =>
    obtain ⟨parts, read, first, second, same⟩ := ofEntry_coverage_eq_ok.mp made
    obtain ⟨formed, filled⟩ := RuleText.ofForm_formed read
    exact ⟨parts, ⟨formed, filled, first, second⟩, FilterPart.coverage.inj same⟩
  | attributes =>
    -- Other texts lead to patterns.
    obtain ⟨pattern, _, last⟩ := bind_eq_ok made
    cases last
  | files =>
    obtain ⟨pattern, _, last⟩ := bind_eq_ok made
    cases last

/-- All rules of a draft have accepted parts. -/
theorem FilterDraft.Reachable.accepted {draft : FilterDraft} (reachable : Reachable draft) {rule : CoverageRule}
    (member : rule ∈ draft.coverage) : ∃ parts : RuleText, parts.Accepted ∧ rule = .ofSegments parts := by
  -- A rule was there before the last text was added, or that text is it.
  induction reachable with
  | empty => cases member
  | @add draft next entry _ done ih =>
    obtain ⟨part, made, last⟩ := bind_eq_ok done
    cases last
    rcases part with added | pattern | pattern
    · rcases List.mem_append.mp member with before | now
      · exact ih before
      · rw [List.mem_singleton.mp now]
        exact FilterPart.ofEntry_accepted made
    · exact ih member
    · exact ih member

/-- A rule is displayed in the plain shape. -/
theorem CoverageRule.display_toList (parts : RuleText) :
    (CoverageRule.ofSegments parts).display.toList = RuleText.write .plain parts := by
  simp [display, ofSegments, Pattern.ofSegment, Pattern.compiled, Pattern.regex, RuleText.write,
    RuleText.Shape.opening, RuleText.Shape.middle, RuleText.Shape.closing]

/-- Rules with one polarity and the same expressions have the same parts. -/
theorem CoverageRule.ofSegments_inj {parts other : RuleText}
    (polarity : (ofSegments parts).polarity = (ofSegments other).polarity)
    (assembly : (ofSegments parts).assembly.expression = (ofSegments other).assembly.expression)
    (className : (ofSegments parts).className.expression = (ofSegments other).className.expression) :
    parts = other := by
  obtain ⟨_, _, _⟩ := parts
  obtain ⟨_, _, _⟩ := other
  obtain rfl : _ = _ := polarity
  obtain rfl := String.ofList_injective assembly
  obtain rfl := String.ofList_injective className
  rfl

/-- A character stands before the end of a text just if something comes after it. -/
theorem mem_dropLast_iff {c : Char} {text : List Char} :
    c ∈ text.dropLast ↔ ∃ before after, text = before ++ c :: after ∧ after ≠ [] := by
  constructor
  · intro member
    obtain ⟨before, after, same⟩ := List.append_of_mem member
    -- The text has a last character, as it has the one that is looked at.
    have some' : text ≠ [] := by
      intro empty
      rw [empty] at member
      cases member
    refine ⟨before, after ++ [text.getLast some'], ?_, by simp⟩
    rw [← List.cons_append, ← List.append_assoc, ← same, List.dropLast_concat_getLast]
  · intro found
    obtain ⟨before, after, rfl, some'⟩ := found
    obtain ⟨d, rest, rfl⟩ := List.exists_cons_of_ne_nil some'
    rw [List.dropLast_append_of_ne_nil (List.cons_ne_nil _ _)]
    simp

namespace RuleText

/-- The longest assembly is the one that was written, unless a closing bracket stands in the class before its end. -/
theorem splitsLast_write_iff {parts : RuleText} (formed : parts.WellFormed) :
    SplitsLast .plain (write .plain parts) parts ↔ ']' ∉ parts.className.dropLast := by
  have splits : Splits .plain (write .plain parts) parts := ⟨formed, rfl⟩
  constructor
  · intro last member
    obtain ⟨_, longest⟩ := last
    obtain ⟨before, after, same, some'⟩ := mem_dropLast_iff.mp member
    -- The assembly may go on up to this bracket.
    obtain ⟨filled, _, oneLine, oneLine'⟩ := formed
    rw [same, List.mem_append, List.mem_cons, not_or, not_or] at oneLine'
    have longer : Splits .plain (write .plain parts) ⟨parts.polarity, parts.assembly ++ ']' :: before, after⟩ := by
      refine ⟨⟨by simp, some', ?_, oneLine'.2.2⟩, ?_⟩
      · rw [List.mem_append, List.mem_cons, not_or, not_or]
        exact ⟨oneLine, by decide, oneLine'.1⟩
      · simp [write, Shape.middle, same]
    have shorter := longest _ longer
    rw [List.length_append, List.length_cons] at shorter
    omega
  · intro bare
    refine ⟨splits, fun other also => ?_⟩
    -- A longer assembly would end at such a bracket.
    rcases splits.overlap also with shorter | ⟨middle, _, same⟩
    · exact shorter
    · exact absurd (mem_dropLast_iff.mpr ⟨middle, other.className, same, also.1.2.1⟩) bare

/-- Rules with the same parts look different in the two shapes. -/
theorem write_ne {parts other : RuleText} (same : parts.assembly.length = other.assembly.length)
    (also : parts.className.length = other.className.length) :
    write .parenthesised parts ≠ write .plain other := by
  intro written
  -- The parentheses make one of the texts longer.
  have lengths := congrArg List.length written
  simp only [write, Shape.opening, Shape.middle, Shape.closing, List.length_cons, List.length_append,
    List.length_nil] at lengths
  omega

/-- A displayed rule has its own parts just if it has none in the other shape and no longer assembly. -/
theorem ofRegex_display {parts : RuleText} (formed : parts.WellFormed) (filled : parts.isBlank = false)
    {text : String} (displayed : text.toList = write .plain parts) :
    RuleText.ofRegex text = .ok parts ↔
      (∀ other, ¬Splits .parenthesised text.toList other) ∧ ']' ∉ parts.className.dropLast := by
  rw [← splitsLast_write_iff formed, ← displayed]
  constructor
  · intro read
    obtain ⟨found, parsed, read⟩ := bind_eq_ok read
    cases found with
    | some found =>
      -- The shape with parentheses would have made the text longer.
      cases read
      have splits := (parse_eq_some.mp parsed).1.1
      exact absurd (splits.2.trans displayed) (write_ne rfl rfl)
    | none =>
      refine ⟨parse_eq_none.mp parsed, ?_⟩
      obtain ⟨found, parsed', read⟩ := bind_eq_ok read
      cases found with
      | none => cases read
      | some found =>
        cases read
        exact (parse_eq_some.mp parsed').1
  · -- Nothing is read with parentheses, and without them the longest assembly is its own.
    intro shown
    obtain ⟨nothing, last⟩ := shown
    rw [RuleText.ofRegex, parse_eq_none.mpr nothing, parse_eq_some.mpr ⟨last, filled⟩]
    rfl

end RuleText

/-- Adding a rule that is written with regular expressions means reading its parts and compiling them. -/
theorem FilterDraft.add_regex_eq_ok {draft : FilterDraft} {text : String} {next : FilterDraft} :
    draft.add ⟨.coverage, .regex, text⟩ = .ok next ↔
      ∃ parts : RuleText, RuleText.ofRegex text = .ok parts ∧ Compiles parts.assembly ∧ Compiles parts.className ∧
        next = draft.append (.coverage (.ofSegments parts)) := by
  constructor
  · intro done
    obtain ⟨part, made, last⟩ := bind_eq_ok done
    obtain ⟨parts, read, first, second, rfl⟩ := FilterPart.ofEntry_coverage_eq_ok.mp made
    exact ⟨parts, read, first, second, (Except.ok.inj last).symm⟩
  · -- What is made of the parts is added, whatever the draft holds.
    intro found
    obtain ⟨parts, read, first, second, rfl⟩ := found
    have made : FilterPart.ofEntry ⟨.coverage, .regex, text⟩ = _ :=
      FilterPart.ofEntry_coverage_eq_ok.mpr ⟨parts, read, first, second, rfl⟩
    rw [FilterDraft.add, made]
    rfl

/-- The text that a rule of a filter is displayed as is read as a rule with the same polarity and the same
expressions just if it is no rule in the parenthesised shape and the expression for classes has no closing bracket
before its last character. -/
theorem FilterDraft.Reachable.display_reads_back {draft : FilterDraft} (reachable : Reachable draft)
    {rule : CoverageRule} (member : rule ∈ draft.filter.coverage) (other : FilterDraft) :
    (∃ found : CoverageRule, other.add ⟨.coverage, .regex, rule.display⟩ = .ok (other.append (.coverage found)) ∧
        found.polarity = rule.polarity ∧ found.assembly.expression = rule.assembly.expression ∧
          found.className.expression = rule.className.expression) ↔
      (∀ parts, ¬Splits .parenthesised rule.display.toList parts) ∧
        ']' ∉ rule.className.expression.toList.dropLast := by
  obtain ⟨parts, accepted, rfl⟩ := reachable.accepted member
  -- The pattern of the class shows the class as it was read.
  have expression : (CoverageRule.ofSegments parts).className.expression.toList = parts.className := by
    simp [CoverageRule.ofSegments, Pattern.ofSegment, Pattern.compiled, Pattern.regex]
  rw [expression, ← RuleText.ofRegex_display accepted.formed accepted.filled (CoverageRule.display_toList parts)]
  constructor
  · -- What is read back has the expressions of the rule, so it has its parts.
    intro back
    obtain ⟨found, done, polarity, assembly, className⟩ := back
    obtain ⟨parts', read, _, _, same⟩ := FilterDraft.add_regex_eq_ok.mp done
    have rules := List.append_cancel_left (congrArg FilterDraft.coverage same)
    obtain rfl := (List.cons.inj rules).1
    rw [read, CoverageRule.ofSegments_inj polarity assembly className]
  · -- The parts compile, as the rule has been kept with them.
    intro read
    refine ⟨.ofSegments parts, ?_, rfl, rfl, rfl⟩
    exact FilterDraft.add_regex_eq_ok.mpr ⟨parts, read, accepted.assembly, accepted.className, rfl⟩

/-- The parts of the rule `+[a]b`. -/
def rulesOfNames : RuleText := ⟨.inclusive, ['a'], ['b']⟩

/-- The rule `+[a]b` is displayed as it was written, and read as the same rule again. -/
theorem FilterDraft.names_read_back :
    ∃ next : FilterDraft, ({} : FilterDraft).add ⟨.coverage, .regex, "+[a]b"⟩ = .ok next ∧
      ∃ rule ∈ next.filter.coverage, ∃ found : CoverageRule,
        next.add ⟨.coverage, .regex, rule.display⟩ = .ok (next.append (.coverage found)) ∧
          found.polarity = rule.polarity ∧ found.assembly.expression = rule.assembly.expression ∧
            found.className.expression = rule.className.expression := by
  have read : RuleText.ofRegex "+[a]b" = .ok rulesOfNames := rfl
  have assembly : Compiles ['a'] := exists_ok (by decide +kernel)
  have className : Compiles ['b'] := exists_ok (by decide +kernel)
  have done : ({} : FilterDraft).add ⟨.coverage, .regex, "+[a]b"⟩ =
      .ok (({} : FilterDraft).append (.coverage (.ofSegments rulesOfNames))) :=
    FilterDraft.add_regex_eq_ok.mpr ⟨rulesOfNames, read, assembly, className, rfl⟩
  -- The displayed text has no parentheses.
  have other : RuleText.ofText? .parenthesised "+[a]b".toList = none := rfl
  refine ⟨_, done, .ofSegments rulesOfNames, List.mem_cons_self, ?_⟩
  refine ((Reachable.empty.add done).display_reads_back List.mem_cons_self _).mpr ⟨?_, by decide⟩
  rw [CoverageRule.display_toList]
  exact RuleText.ofText?_eq_none.mp other

/-- A rule whose class starts with a bracketed class is displayed as a text that is refused. -/
theorem FilterDraft.bracketed_class_is_refused :
    ∃ next : FilterDraft, ({} : FilterDraft).add ⟨.coverage, .regex, "+[(a)]([b]c)"⟩ = .ok next ∧
      ∃ rule ∈ next.filter.coverage, rule.display = "+[a][b]c" ∧
        ∀ other : FilterDraft, ¬∃ after, other.add ⟨.coverage, .regex, rule.display⟩ = .ok after := by
  have read : RuleText.ofRegex "+[(a)]([b]c)" = .ok ⟨.inclusive, ['a'], ['[', 'b', ']', 'c']⟩ := rfl
  have assembly : Compiles ['a'] := exists_ok (by decide +kernel)
  have className : Compiles ['[', 'b', ']', 'c'] := exists_ok (by decide +kernel)
  refine ⟨_, FilterDraft.add_regex_eq_ok.mpr ⟨_, read, assembly, className, rfl⟩, _, List.mem_cons_self, rfl, ?_⟩
  -- The longest assembly is taken for the one that was displayed.
  intro other accepted
  obtain ⟨after, done⟩ := accepted
  have again : RuleText.ofRegex "+[a][b]c" = .ok ⟨.inclusive, "a][b".toList, ['c']⟩ := rfl
  obtain ⟨parts, read', ⟨regex, compiles⟩, _⟩ := FilterDraft.add_regex_eq_ok.mp done
  obtain rfl := Except.ok.inj (again.symm.trans read')
  have refused : matcherOf (String.ofList "a][b".toList) true = .error .unclosedClass := rfl
  cases refused.symm.trans compiles

end ModuleScope
