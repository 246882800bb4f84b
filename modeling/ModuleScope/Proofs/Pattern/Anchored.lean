import ModuleScope.Pattern.Basic
import ModuleScope.Proofs.Regex.Anchored

/-! An anchored pattern matches the names that its expression covers from the first position to the last. -/

namespace ModuleScope

open Regex (Spans ofText anchoredText between)

/-- An anchored pattern compiles the text of its expression between anchors. -/
theorem matcherOf_anchored (expression : String) :
    matcherOf expression true = Regex.compile (anchoredText expression.toList) := rfl

/-- A regex that is compiled is the one that the text is the notation of. -/
theorem ofText_of_compile {text : List Char} {regex : Regex} (done : Regex.compile text = .ok regex) :
    ofText text = .ok regex := by
  obtain ⟨found, read, fits⟩ := bind_eq_ok done
  split at fits
  · exact read.trans fits
  · cases fits

/-- A text is compiled if it is an expression that does not take too much room. -/
theorem compile_of_ofText {text : List Char} {regex : Regex} (read : ofText text = .ok regex) :
    Regex.compile text = if regex.fits then .ok regex else .error .tooLarge := by
  rw [Regex.compile, read]
  rfl

/-- A regex between anchors matches the texts that it covers as a whole. -/
theorem between_isMatch {text : List Char} {regex : Regex} (valid : ofText text = .ok regex) (name : List Char) :
    (between regex).isMatch name = true ↔ Spans name regex 0 name.length := by
  -- The search finds what occurs, and between anchors only the whole text can.
  have ordered : (between regex).Ordered := ⟨trivial, Regex.ofText_ordered valid, trivial⟩
  rw [Regex.isMatch_iff_occurs ordered, between, Regex.occurs_between_anchors]

/-- A valid expression is compiled between anchors to what it is alone between anchors, if that fits. -/
theorem compile_anchored {text : List Char} {regex whole : Regex} (valid : ofText text = .ok regex)
    (compiles : Regex.compile (anchoredText text) = .ok whole) :
    whole = between regex ∧ (between regex).fits = true := by
  have read := ofText_of_compile compiles
  -- In both other cases the text between the anchors would have been refused.
  rcases Regex.ofText_valid valid with ⟨_, done | deep⟩ | ⟨_, open'⟩
  · obtain rfl := Except.ok.inj (read.symm.trans done)
    rw [compile_of_ofText read] at compiles
    -- A compiled expression is one that fits.
    by_cases fits : (between regex).fits = true
    · exact ⟨rfl, fits⟩
    · rw [if_neg fits] at compiles
      cases compiles
  · cases read.symm.trans deep
  · cases read.symm.trans open'

namespace Pattern

/-- What an anchored pattern compiles to is its expression between anchors, if that is valid alone. -/
theorem matcher_between {pattern : Pattern} (anchored : pattern.anchored = true) {regex whole : Regex}
    (valid : ofText pattern.expression.toList = .ok regex) (compiles : pattern.matcher = .ok whole) :
    whole = between regex := by
  rw [matcher_eq, anchored, matcherOf_anchored] at compiles
  exact (compile_anchored valid compiles).1

/-- An anchored pattern whose expression is valid alone matches what the expression covers as a whole. -/
theorem isMatch_iff_spans {pattern : Pattern} (anchored : pattern.anchored = true) {regex whole : Regex}
    (valid : ofText pattern.expression.toList = .ok regex) (compiles : pattern.matcher = .ok whole)
    (name : String) :
    pattern.isMatch name = true ↔ Spans name.toList regex 0 name.toList.length := by
  have matched : pattern.isMatch name = (between regex).isMatch name.toList := by
    rw [isMatch, compiles, matcher_between anchored valid compiles]
  rw [matched, between_isMatch valid]

/-- The pattern of an expression that is valid alone and compiles between anchors matches a name just if the
expression has a match in it that starts at the first position and ends at the last. -/
theorem regex_matches_whole {expression : String} {regex whole : Regex}
    (valid : ofText expression.toList = .ok regex) (compiles : (Pattern.regex expression).matcher = .ok whole)
    (name : String) :
    (Pattern.regex expression).isMatch name = true ↔ Spans name.toList regex 0 name.toList.length :=
  isMatch_iff_spans rfl valid compiles name

/-- What the text `ab|c` is read as. -/
def alternative : Regex :=
  .alt (.seq (.oneOf (.single 'a')) (.oneOf (.single 'b'))) (.oneOf (.single 'c'))

/-- The text `ab|c` compiles between anchors. -/
theorem matcherOf_alternative : matcherOf "ab|c" true = .ok (between alternative) := by
  have read : ofText (anchoredText "ab|c".toList) = .ok (between alternative) := rfl
  have fits : (between alternative).fits = true := by decide +kernel
  exact (compile_of_ofText read).trans (if_pos fits)

/-- An alternative matches names as a whole on either side of the bar, and no longer names. -/
theorem alternative_matches_whole :
    (Pattern.regex "ab|c").isMatch "c" = true ∧ (Pattern.regex "ab|c").isMatch "abx" = false := by
  have valid : ofText "ab|c".toList = .ok alternative := rfl
  have compiles : (Pattern.regex "ab|c").matcher = .ok (between alternative) :=
    (matcher_eq _).trans matcherOf_alternative
  constructor
  · rw [regex_matches_whole valid compiles]
    exact Or.inr ⟨'c', rfl, by decide, rfl⟩
  · rw [Bool.eq_false_iff, ne_eq, regex_matches_whole valid compiles]
    -- Either branch stops before the last of the three characters.
    intro spans
    rcases spans with ⟨_, ⟨_, _, _, rfl⟩, _, _, _, short⟩ | ⟨_, _, _, short⟩
    · cases short
    · cases short

end Pattern

end ModuleScope
