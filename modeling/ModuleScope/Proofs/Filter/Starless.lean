import ModuleScope.Proofs.Filter.WildcardRule
import ModuleScope.Proofs.Pattern.Anchored
import ModuleScope.Proofs.Pattern.Wildcard
import ModuleScope.Proofs.Regex.Guarded
import ModuleScope.Proofs.Regex.Locality

/-! Wildcard text without stars matches itself and nothing else just if it holds no sign of regular expressions:
with a sign in it the text would have to be matched without the sign, and then longer texts are matched as well. -/

namespace ModuleScope

open RuleText (Splits)

/-- A pattern that is kept matches what the regex of its anchored expression matches. -/
theorem Compiles.isMatch {segment : List Char} (compiles : Compiles segment) :
    ∃ regex, Regex.ofText (Regex.anchoredText segment) = .ok regex ∧
      ∀ name : String, (Pattern.ofSegment segment).isMatch name = regex.isMatch name.toList := by
  -- What has been found out before the pattern was kept is found out again.
  obtain ⟨regex, found⟩ := compiles
  have built : (Pattern.ofSegment segment).matcher = .ok regex := (Pattern.matcher_eq _).trans found
  rw [matcherOf_anchored, String.toList_ofList] at found
  exact ⟨regex, ofText_of_compile found, fun name => by rw [Pattern.isMatch, built]⟩

/-- A pattern that has been kept for wildcard text matches just the names that the text matches. -/
theorem Pattern.ofSegment_isMatch_iff {text : List Char} (plain : ∀ c ∈ text, c ∉ Regex.liveSigns)
    (bracket : '[' ∉ text) (compiles : Compiles (Wildcard.expression text)) (name : String) :
    (Pattern.ofSegment (Wildcard.expression text)).isMatch name = true ↔
      Wildcard.Matches text name.toList := by
  -- What compiles is the expression of the text between anchors.
  have read : Regex.ofText (Regex.anchoredText (Wildcard.expression text)) = .ok (Wildcard.anchored text) :=
    Wildcard.ofText_expression plain bracket
  obtain ⟨regex, read', matched⟩ := compiles.isMatch
  obtain rfl : Wildcard.anchored text = regex := Except.ok.inj (read.symm.trans read')
  -- The anchored regex occurs just if the regex of the text spans the whole name.
  have whole : Regex.Spans name.toList (Wildcard.regexOf text) 0 name.toList.length ↔
      Wildcard.Matches text name.toList := Wildcard.spans_regexOf (Nat.zero_le _)
  rw [matched, ← whole, ← Regex.occurs_between_anchors]
  exact Regex.isMatch_iff_occurs (Wildcard.anchored_ordered text) name.toList

/-- Between anchors stand only protected dots and backslashes, if there are neither stars nor brackets. -/
theorem Wildcard.expression_guarded {text : List Char} (starless : '*' ∉ text) (bracket : '[' ∉ text) :
    Regex.Guarded (Regex.anchoredText (expression text)) := by
  have inner : Regex.Guarded (expression text) := by
    induction text with
    | nil => exact .nil
    | cons c text ih =>
      -- What a character becomes is a pair or a character that starts none.
      simp only [List.mem_cons, not_or] at starless bracket
      have later := ih starless.2 bracket.2
      show Regex.Guarded (charExpression c ++ expression text)
      unfold charExpression
      split
      · exact .escaped (.inl rfl) later
      split
      · exact .escaped (.inr rfl) later
      split
      · rename_i star
        exact absurd star.symm starless.1
      · rename_i slash dot star
        refine .plain ?_ later
        simp [slash, dot, star, Ne.symm bracket.1]
  -- The anchors hold neither dots nor backslashes.
  have front : Regex.Guarded ['^', '(', '?', ':'] :=
    .plain (by decide) (.plain (by decide) (.plain (by decide) (.plain (by decide) .nil)))
  have back : Regex.Guarded [')', '$'] := .plain (by decide) (.plain (by decide) .nil)
  exact (front.append inner).append back

/-- The pattern of wildcard text without stars matches the text and nothing else just if the text has no signs. -/
theorem Pattern.ofSegment_starless {text : String} (starless : '*' ∉ text.toList) (bracket : '[' ∉ text.toList)
    (compiles : Compiles (Wildcard.expression text.toList)) :
    (∀ name, (ofSegment (Wildcard.expression text.toList)).isMatch name = true ↔ name = text) ↔
      ∀ c ∈ text.toList, c ∉ Regex.liveSigns := by
  constructor
  · intro alone c member sign
    obtain ⟨regex, read, matched⟩ := compiles.isMatch
    have ordered := Regex.ofText_ordered read
    have occurs : regex.Occurs text.toList := by
      rw [← Regex.isMatch_iff_occurs ordered, ← matched]
      exact (alone text).mpr rfl
    -- The sign is no part of the match, so another text is matched as well.
    have unsigned := Regex.ofText_unsigned (Wildcard.expression_guarded starless bracket) read
    obtain ⟨other, differs, again⟩ := occurs.elsewhere member fun set among => unsigned set among c sign
    have also : (ofSegment (Wildcard.expression text.toList)).isMatch (String.ofList other) = true := by
      rw [matched, String.toList_ofList]
      exact (Regex.isMatch_iff_occurs ordered other).mpr again
    rw [alone] at also
    exact differs (by rw [← also, String.toList_ofList])
  · -- Without signs the pattern matches what the text matches as a glob.
    intro plain name
    rw [ofSegment_isMatch_iff plain bracket compiles, Wildcard.matches_starless starless, String.toList_inj]

/-- A pattern that was kept when a wildcard text was added: of the text as a whole or of a part of a rule. -/
inductive KeptFor : NameKind → String → Pattern → Prop
  /-- The pattern of a text for files. -/
  | ofFile {draft next : FilterDraft} {text : String} {pattern : Pattern}
    (added : draft.add ⟨.files, .wildcard, text⟩ = .ok next) (kept : next.files = draft.files ++ [pattern]) :
    KeptFor .fileName text pattern
  /-- The pattern of a text for attributes. -/
  | ofAttribute {draft next : FilterDraft} {text : String} {pattern : Pattern}
    (added : draft.add ⟨.attributes, .wildcard, text⟩ = .ok next)
    (kept : next.attributes = draft.attributes ++ [pattern]) : KeptFor .attributeName text pattern
  /-- The pattern of the assembly of a rule. -/
  | ofAssembly {draft next : FilterDraft} {text : String} {parts : RuleText} {rule : CoverageRule}
    (splits : Splits .plain text.toList parts) (added : draft.add ⟨.coverage, .wildcard, text⟩ = .ok next)
    (kept : next.coverage = draft.coverage ++ [rule]) :
    KeptFor .assemblyName (String.ofList parts.assembly) rule.assembly
  /-- The pattern of the class of a rule. -/
  | ofClass {draft next : FilterDraft} {text : String} {parts : RuleText} {rule : CoverageRule}
    (splits : Splits .plain text.toList parts) (added : draft.add ⟨.coverage, .wildcard, text⟩ = .ok next)
    (kept : next.coverage = draft.coverage ++ [rule]) :
    KeptFor .className (String.ofList parts.className) rule.className

/-- The expression of wildcard text that holds no reserved character. -/
theorem segmentOf_wildcard {kind : NameKind} {text : String} {segment : List Char}
    (read : segmentOf .wildcard kind text = .ok segment) :
    Wildcard.hasReserved kind text.toList = false ∧ segment = Wildcard.expression text.toList := by
  -- A reserved character would have been refused.
  by_cases held : Wildcard.hasReserved kind text.toList = true
  · simp [segmentOf, Pattern.wildcard, held, Except.map] at read
  · simp only [segmentOf, Pattern.wildcard, held, Except.map, Pattern.regex] at read
    refine ⟨Bool.eq_false_iff.mpr held, ?_⟩
    rw [← Except.ok.inj read, String.toList_ofList]

/-- No kind of names has room for an opening bracket. -/
theorem Wildcard.bracket_of_unreserved {kind : NameKind} {text : List Char}
    (unreserved : hasReserved kind text = false) : '[' ∉ text := by
  intro member
  have free := List.any_eq_false.mp unreserved '[' member
  cases kind <;> exact free (by decide)

/-- Where a rule with wildcards is added it is made of the expressions of its parts. -/
theorem FilterDraft.add_wildcard_splits {draft next : FilterDraft} {text : String} {parts : RuleText}
    {rule : CoverageRule} (splits : Splits .plain text.toList parts)
    (added : draft.add ⟨.coverage, .wildcard, text⟩ = .ok next)
    (kept : next.coverage = draft.coverage ++ [rule]) :
    (¬HoldsBracket parts.assembly ∧ ¬HoldsBracket parts.className) ∧
      (Compiles parts.translated.assembly ∧ Compiles parts.translated.className) ∧
        rule = .ofSegments parts.translated := by
  rw [draft.add_wildcard_eq] at added
  cases read : RuleText.ofText? .plain text.toList with
  | none =>
    -- A text without parts would have been refused, and so would a blank one.
    rw [read] at added
    cases added
  | some found =>
    rw [read] at added
    by_cases blank : found.isBlank = true
    · simp only [blank, if_true] at added
      cases added
    · simp only [blank, if_false, Bool.false_eq_true] at added
      obtain ⟨free, compiles, rfl⟩ := (wildcards_outcome draft found).of_ok added
      -- The text is split in one way only.
      obtain rfl := (RuleText.ofText?_eq_some.mp read).1.unique free.1 free.2 splits
      exact ⟨free, compiles, (List.singleton_inj.mp (List.append_cancel_left kept)).symm⟩

/-- The pattern of wildcard text is the one of its expression, which compiles. -/
theorem FilterPart.patternOf_wildcard {kind : NameKind} {text : String} {pattern : Pattern}
    (made : patternOf .wildcard kind text = .ok pattern) :
    '[' ∉ text.toList ∧ Compiles (Wildcard.expression text.toList) ∧
      pattern = Pattern.ofSegment (Wildcard.expression text.toList) := by
  obtain ⟨segment, read, compiles, rfl⟩ := patternOf_eq_ok.mp made
  obtain ⟨unreserved, rfl⟩ := segmentOf_wildcard read
  exact ⟨Wildcard.bracket_of_unreserved unreserved, compiles, rfl⟩

/-- A pattern that was kept is the one of the expression of its text. -/
theorem KeptFor.eq_ofSegment {kind : NameKind} {text : String} {pattern : Pattern}
    (kept : KeptFor kind text pattern) :
    '[' ∉ text.toList ∧ Compiles (Wildcard.expression text.toList) ∧
      pattern = Pattern.ofSegment (Wildcard.expression text.toList) := by
  -- The parts of a rule are free of brackets because the rule has been added.
  have bracket : ∀ {text : List Char}, ¬HoldsBracket text → '[' ∉ text := fun free member =>
    free ⟨'[', member, by decide⟩
  cases kept with
  | ofFile added kept =>
    -- The pattern of a file is the only one of its text.
    obtain ⟨part, built, last⟩ := bind_eq_ok added
    obtain ⟨found, made, same⟩ := bind_eq_ok built
    cases same
    cases last
    obtain rfl := List.singleton_inj.mp (List.append_cancel_left kept)
    exact FilterPart.patternOf_wildcard made
  | ofAttribute added kept =>
    obtain ⟨part, built, last⟩ := bind_eq_ok added
    obtain ⟨found, made, same⟩ := bind_eq_ok built
    cases same
    cases last
    obtain rfl := List.singleton_inj.mp (List.append_cancel_left kept)
    exact FilterPart.patternOf_wildcard made
  | ofAssembly splits added kept =>
    -- That of a rule belongs to one of its two parts.
    obtain ⟨free, compiles, rfl⟩ := FilterDraft.add_wildcard_splits splits added kept
    rw [String.toList_ofList]
    exact ⟨bracket free.1, compiles.1, rfl⟩
  | ofClass splits added kept =>
    obtain ⟨free, compiles, rfl⟩ := FilterDraft.add_wildcard_splits splits added kept
    rw [String.toList_ofList]
    exact ⟨bracket free.2, compiles.2, rfl⟩

/-- The pattern that is kept for wildcard text without stars, in whatever kind of names, matches the text and nothing
else just if none of the signs that keep their meaning in regular expressions stands in the text. -/
theorem KeptFor.matches_text_alone_iff {kind : NameKind} {text : String} {pattern : Pattern}
    (kept : KeptFor kind text pattern) (starless : '*' ∉ text.toList) :
    (∀ name, pattern.isMatch name = true ↔ name = text) ↔ ∀ c ∈ text.toList, c ∉ Regex.liveSigns := by
  obtain ⟨bracket, compiles, rfl⟩ := kept.eq_ofSegment
  exact Pattern.ofSegment_starless starless bracket compiles

/-- A text for files is kept if it has no brackets and its expression compiles. -/
theorem KeptFor.of_compiles {text : String} (unreserved : Wildcard.hasReserved .fileName text.toList = false)
    (compiles : Compiles (Wildcard.expression text.toList)) :
    KeptFor .fileName text (Pattern.ofSegment (Wildcard.expression text.toList)) := by
  -- No character is reserved, so the text is translated.
  have read : segmentOf .wildcard .fileName text = .ok (Wildcard.expression text.toList) := by
    simp [segmentOf, Pattern.wildcard, unreserved, Except.map, Pattern.regex]
  have made := FilterPart.patternOf_eq_ok.mpr ⟨_, read, compiles, rfl⟩
  have added : ({} : FilterDraft).add ⟨.files, .wildcard, text⟩ =
      .ok (({} : FilterDraft).append (.file (.ofSegment (Wildcard.expression text.toList)))) :=
    congrArg (fun made => (made >>= fun pattern => Except.ok (FilterPart.file pattern)) >>= fun part =>
      Except.ok (({} : FilterDraft).append part)) made
  exact .ofFile added rfl

/-- A dot and a closing brace stand for themselves. -/
theorem keptFor_text_with_brace :
    ∃ pattern, KeptFor .fileName "a\x7d.c" pattern ∧ '*' ∉ "a\x7d.c".toList ∧
      ∀ name, pattern.isMatch name = true ↔ name = "a\x7d.c" := by
  have kept := KeptFor.of_compiles (show Wildcard.hasReserved .fileName "a\x7d.c".toList = false by decide)
    (exists_ok (by decide +kernel))
  have starless : '*' ∉ "a\x7d.c".toList := by decide
  exact ⟨_, kept, starless, (kept.matches_text_alone_iff starless).mpr (by simp [Regex.liveSigns])⟩

/-- The pattern that is kept for the text `a+b` does not match the text, and it matches others. -/
theorem keptFor_text_with_plus :
    ∃ pattern, KeptFor .fileName "a+b" pattern ∧ '*' ∉ "a+b".toList ∧
      pattern.isMatch "a+b" = false ∧ pattern.isMatch "ab" = true ∧ pattern.isMatch "aab" = true := by
  have kept := KeptFor.of_compiles (show Wildcard.hasReserved .fileName "a+b".toList = false by decide)
    (exists_ok (by decide +kernel))
  exact ⟨_, kept, by decide, by decide +kernel, by decide +kernel, by decide +kernel⟩

end ModuleScope
