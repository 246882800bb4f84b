import ModuleScope.Proofs.Filter.Segments
import ModuleScope.Proofs.Pattern.Anchored

/-! Which texts are accepted as rules and patterns: those whose expressions are expressions by themselves, as long as
these close no groups that they do not open and do not end in comments. -/

namespace ModuleScope

open Regex (IsExpression EndsInComment Spans ofText anchoredText between)

/-- The text closes no group that it does not open, and no comment at its end goes on after it. -/
def SelfContained (segment : List Char) : Prop :=
  -- Only the first such group shows, as the text is refused there.
  ofText segment ≠ .error .unopenedGroup ∧ ¬EndsInComment segment

/-- Between anchors the expression is neither too deep nor too large. -/
def WithinLimits (segment : List Char) : Prop :=
  matcherOf (String.ofList segment) true ≠ .error .tooDeep ∧
    matcherOf (String.ofList segment) true ≠ .error .tooLarge

/-- A text that is self-contained compiles between anchors only if it is an expression by itself. -/
theorem SelfContained.isExpression {segment : List Char} (contained : SelfContained segment)
    (compiles : Compiles segment) : IsExpression segment := by
  obtain ⟨regex, found⟩ := compiles
  rw [matcherOf_anchored, String.toList_ofList] at found
  cases outcome : ofText segment with
  | ok regex => exact ⟨regex, outcome⟩
  | error error =>
    -- The anchors could only help a text that closes the group around it.
    have other : error ≠ .unopenedGroup := by
      intro same
      exact contained.1 (same ▸ outcome)
    exact absurd (ofText_of_compile found) (Regex.anchored_invalid outcome other regex)

/-- An expression that is self-contained compiles between anchors, limits aside. -/
theorem SelfContained.compiles {segment : List Char} (contained : SelfContained segment)
    (limits : WithinLimits segment) (valid : IsExpression segment) : Compiles segment := by
  obtain ⟨regex, read⟩ := valid
  unfold WithinLimits at limits
  unfold Compiles
  rw [matcherOf_anchored, String.toList_ofList] at limits ⊢
  -- The anchors make the expression deeper and larger, and nothing else.
  rcases Regex.anchored_valid read contained.2 with whole | deep
  · rw [compile_of_ofText whole] at limits ⊢
    -- It is read; what is left is whether it is small enough.
    by_cases fits : (between regex).fits = true
    · exact ⟨between regex, if_pos fits⟩
    · exact absurd (if_neg fits) limits.2
  · refine absurd ?_ limits.1
    rw [Regex.compile, deep]
    rfl

/-- An expression that ends in a comment does not compile between anchors. -/
theorem not_compiles_of_comment {segment : List Char} (ends : EndsInComment segment) : ¬Compiles segment := by
  -- The comment goes on through the parenthesis that should close the group.
  intro compiles
  obtain ⟨regex, found⟩ := compiles
  rw [matcherOf_anchored, String.toList_ofList] at found
  cases (ofText_of_compile found).symm.trans (Regex.anchored_comment ends)

/-- A pattern that has been kept matches the names that its expression covers as a whole. -/
theorem Pattern.ofSegment_matches_whole {segment : List Char} (contained : SelfContained segment)
    (compiles : Compiles segment) : ∃ regex, ofText (Pattern.ofSegment segment).expression.toList = .ok regex ∧
      ∀ name, (Pattern.ofSegment segment).isMatch name = true ↔ Spans name.toList regex 0 name.toList.length := by
  obtain ⟨regex, valid⟩ := contained.isExpression compiles
  obtain ⟨whole, found⟩ := compiles
  -- The pattern keeps the text of its segment.
  have read : ofText (Pattern.ofSegment segment).expression.toList = .ok regex := by
    show ofText (String.ofList segment).toList = .ok regex
    rw [String.toList_ofList]
    exact valid
  have built : (Pattern.ofSegment segment).matcher = .ok whole := by
    rw [Pattern.matcher_eq]
    exact found
  exact ⟨regex, read, fun name => Pattern.isMatch_iff_spans rfl read built name⟩

/-- Adding a text succeeds if it is a rule or pattern. -/
theorem FilterDraft.add_iff_ofEntry (draft : FilterDraft) (entry : RuleEntry) :
    (∃ next, draft.add entry = .ok next) ↔ ∃ part, FilterPart.ofEntry entry = .ok part := by
  -- Nothing can fail after the rule or pattern has been made.
  unfold FilterDraft.add
  constructor
  · intro accepted
    obtain ⟨next, done⟩ := accepted
    obtain ⟨part, made, _⟩ := bind_eq_ok done
    exact ⟨part, made⟩
  · intro found
    obtain ⟨part, made⟩ := found
    exact ⟨draft.append part, by rw [made]; rfl⟩

/-- A text with an expression that ends in a comment is refused, although the expression may be valid. -/
theorem FilterDraft.add_refuses_comment (draft : FilterDraft) {entry : RuleEntry} {segments : List (List Char)}
    (read : entry.segments = .ok segments) {segment : List Char} (member : segment ∈ segments)
    (ends : EndsInComment segment) : ¬∃ next, draft.add entry = .ok next := by
  intro accepted
  obtain ⟨part, made⟩ := (draft.add_iff_ofEntry entry).mp accepted
  obtain ⟨segments', read', compiles, _⟩ := FilterPart.ofEntry_patterns made
  -- The segments that were compiled are those of the entry.
  obtain rfl := Except.ok.inj (read.symm.trans read')
  exact not_compiles_of_comment ends (compiles segment member)

/-- A text is accepted just if all its expressions are expressions by themselves, and then its patterns match the
names that these cover as a whole; that is if the expressions are self-contained, the limits on their depth and
size being left aside. -/
theorem FilterDraft.add_iff_expressions (draft : FilterDraft) {entry : RuleEntry} {segments : List (List Char)}
    (read : entry.segments = .ok segments) (contained : ∀ segment ∈ segments, SelfContained segment)
    (limits : ∀ segment ∈ segments, WithinLimits segment) :
    ((∃ next, draft.add entry = .ok next) ↔ ∀ segment ∈ segments, IsExpression segment) ∧
      ∀ part, FilterPart.ofEntry entry = .ok part → ∀ pattern ∈ part.patterns, ∃ regex,
        ofText pattern.expression.toList = .ok regex ∧
          ∀ name, pattern.isMatch name = true ↔ Spans name.toList regex 0 name.toList.length := by
  -- A text that is accepted has been taken apart into these expressions, and each of them compiles.
  have kept : ∀ part, FilterPart.ofEntry entry = .ok part →
      (∀ segment ∈ segments, Compiles segment) ∧ part.patterns = segments.map Pattern.ofSegment := by
    intro part made
    obtain ⟨segments', read', compiles, same⟩ := FilterPart.ofEntry_patterns made
    obtain rfl := Except.ok.inj (read.symm.trans read')
    exact ⟨compiles, same⟩
  refine ⟨?_, ?_⟩
  · rw [draft.add_iff_ofEntry]
    constructor
    · -- What was accepted compiles, and so it is an expression.
      intro accepted segment member
      obtain ⟨part, made⟩ := accepted
      exact (contained segment member).isExpression ((kept part made).1 segment member)
    · intro valid
      refine FilterPart.ofEntry_compiles read fun segment member => ?_
      exact (contained segment member).compiles (limits segment member) (valid segment member)
  · intro part made pattern member
    obtain ⟨compiles, same⟩ := kept part made
    rw [same] at member
    obtain ⟨segment, inside, rfl⟩ := List.mem_map.mp member
    exact Pattern.ofSegment_matches_whole (contained segment inside) (compiles segment inside)

/-- The text `ab|c` is accepted as a pattern of files. -/
theorem FilterDraft.add_alternative : ∃ next, ({} : FilterDraft).add ⟨.files, .regex, "ab|c"⟩ = .ok next := by
  have valid : ofText "ab|c".toList = .ok Pattern.alternative := rfl
  have closes : ofText ("ab|c".toList ++ [')']) = .error .unopenedGroup := rfl
  -- It closes no group that it does not open and has no comment.
  have contained : SelfContained "ab|c".toList := by
    constructor
    · intro refused
      cases valid.symm.trans refused
    · -- A parenthesis after the text is read, so it is in no comment.
      intro ends
      obtain ⟨regex, _, swallowed⟩ := ends
      cases closes.symm.trans swallowed
  have limits : WithinLimits "ab|c".toList := by
    unfold WithinLimits
    rw [String.ofList_toList, Pattern.matcherOf_alternative]
    constructor <;> intro same <;> cases same
  have read : (RuleEntry.mk .files .regex "ab|c").segments = .ok ["ab|c".toList] := rfl
  have accepted := ({} : FilterDraft).add_iff_expressions read (List.forall_mem_singleton.mpr contained)
    (List.forall_mem_singleton.mpr limits)
  exact accepted.1.mpr (List.forall_mem_singleton.mpr ⟨Pattern.alternative, valid⟩)

/-- A text that closes a group from inside is accepted as two alternatives, and an expression that ends in a comment
is refused. -/
theorem FilterDraft.accepts_closed_group :
    (∃ next, ({} : FilterDraft).add ⟨.files, .regex, "a)|(b"⟩ = .ok next ∧
        next.filter.excludesFile "ax" = true) ∧
      ¬IsExpression "a)|(b".toList ∧ IsExpression "(?x)a#c".toList ∧
        ¬∃ next, ({} : FilterDraft).add ⟨.files, .regex, "(?x)a#c"⟩ = .ok next := by
  refine ⟨?_, ?_, ?_, ?_⟩
  · -- Between the anchors the text reads as two alternatives, and each anchor belongs to one of them.
    have accepted : (({} : FilterDraft).add ⟨.files, .regex, "a)|(b"⟩).toOption.any
        (fun next => next.filter.excludesFile "ax") = true := by decide +kernel
    cases outcome : ({} : FilterDraft).add ⟨.files, .regex, "a)|(b"⟩ with
    | error error =>
      rw [outcome] at accepted
      cases accepted
    | ok next =>
      rw [outcome] at accepted
      exact ⟨next, rfl, accepted⟩
  · -- By itself the parenthesis has nothing to close.
    intro expression
    obtain ⟨regex, valid⟩ := expression
    have refused : ofText "a)|(b".toList = .error .unopenedGroup := rfl
    cases refused.symm.trans valid
  · -- By itself the comment ends with the text.
    have valid : (ofText "(?x)a#c".toList).toOption.isSome = true := by decide +kernel
    exact exists_ok valid
  · -- Between the anchors it swallows the closing one.
    intro accepted
    obtain ⟨next, done⟩ := accepted
    have refused : (({} : FilterDraft).add ⟨.files, .regex, "(?x)a#c"⟩).toOption.isSome = false := by
      decide +kernel
    rw [done] at refused
    cases refused

end ModuleScope
