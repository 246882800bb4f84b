import ModuleScope.Proofs.Filter.RuleText
import ModuleScope.Proofs.Pattern.Anchored
import ModuleScope.Proofs.Pattern.Wildcard

/-! The two shapes of coverage rules as regular expressions: a text has parts in a shape just if the expression of
the shape matches it. -/

namespace ModuleScope

open Unicode (CharSet)

namespace Regex

/-- After the text `before`, the regexes match the rest of the whole text, one after the other. -/
def Completes (before rest : List Char) (regexes : List Regex) : Prop :=
  Spans (before ++ rest) (sequence regexes) before.length (before ++ rest).length

/-- A text of one line that is not empty. -/
def line : Regex := .rep (.oneOf Wildcard.inLine) 1 none

variable {before rest : List Char} {regexes : List Regex}

/-- To remember where a regex matches makes no difference. -/
theorem completes_capture {body : Regex} :
    Completes before rest (.capture body :: regexes) ↔ Completes before rest (body :: regexes) := by
  unfold Completes
  rw [spans_sequence_cons, spans_sequence_cons]
  rfl

/-- A set of characters matches the next character. -/
theorem completes_oneOf {set : CharSet} :
    Completes before rest (.oneOf set :: regexes) ↔
      ∃ c after, rest = c :: after ∧ set.contains c = true ∧ Completes (before ++ [c]) after regexes := by
  unfold Completes
  rw [spans_sequence_cons]
  constructor
  · -- The set takes one character, and the rest goes on behind it.
    intro spans
    obtain ⟨middle, now, later⟩ := spans
    obtain ⟨c, member, next, rfl⟩ := Wildcard.spans_oneOf.mp now
    rw [List.drop_left] at next
    refine ⟨c, _, next, member, ?_⟩
    rw [List.append_assoc, List.singleton_append, ← next, List.length_append, List.length_singleton]
    exact later
  · -- The other way round, that character stands where the set looks.
    intro found
    obtain ⟨c, after, rfl, member, later⟩ := found
    have here : (before ++ c :: after)[before.length]? = some c := by simp
    refine ⟨before.length + 1, ⟨c, here, member, rfl⟩, ?_⟩
    rw [List.append_assoc, List.singleton_append, List.length_append, List.length_singleton] at later
    exact later

/-- The characters of a mark match that mark. -/
theorem completes_mark {mark : List Char} :
    Completes before rest (mark.map (fun c => .oneOf (.single c)) ++ regexes) ↔
      ∃ after, rest = mark ++ after ∧ Completes (before ++ mark) after regexes := by
  induction mark generalizing before rest with
  | nil => simp
  | cons sign mark ih =>
    -- The characters of the mark are taken one by one.
    rw [List.map_cons, List.cons_append, completes_oneOf]
    constructor
    · intro found
      obtain ⟨c, after, rfl, same, later⟩ := found
      obtain rfl := (CharSet.single_contains sign c).mp same
      obtain ⟨after', rfl, last⟩ := ih.mp later
      exact ⟨after', rfl, by rwa [List.append_assoc] at last⟩
    · intro found
      obtain ⟨after, rfl, later⟩ := found
      refine ⟨sign, mark ++ after, rfl, (CharSet.single_contains sign sign).mpr rfl, ih.mpr ⟨after, rfl, ?_⟩⟩
      rwa [List.append_assoc]

/-- A part of one line matches any such part. -/
theorem completes_line :
    Completes before rest (line :: regexes) ↔
      ∃ part after, rest = part ++ after ∧ part ≠ [] ∧ '\n' ∉ part ∧
        Completes (before ++ part) after regexes := by
  unfold Completes
  rw [spans_sequence_cons]
  constructor
  · intro spans
    obtain ⟨middle, ⟨count, some', _, _, rounds⟩, later⟩ := spans
    -- There is a character for each round.
    obtain ⟨part, rfl, oneLine, next, rfl⟩ := Wildcard.iterate_inLine.mp rounds
    rw [List.drop_left] at next
    refine ⟨part, _, next, List.ne_nil_of_length_pos some', oneLine, ?_⟩
    rw [List.append_assoc, ← next, List.length_append]
    exact later
  · intro found
    obtain ⟨part, after, rfl, some', oneLine, later⟩ := found
    -- As many rounds are made as the part has characters.
    have next : (before ++ (part ++ after)).drop before.length =
        part ++ (before ++ (part ++ after)).drop (before.length + part.length) := by
      rw [List.drop_left, ← List.append_assoc before part after, ← List.length_append, List.drop_left]
    refine ⟨before.length + part.length, ?_, ?_⟩
    · exact ⟨part.length, List.length_pos_iff.mpr some', by simp, by simp,
        Wildcard.iterate_inLine.mpr ⟨part, rfl, oneLine, next, rfl⟩⟩
    · rw [List.append_assoc, List.length_append] at later
      exact later

/-- The anchor at the end matches where nothing is left. -/
theorem completes_end : Completes before rest [.assert .textEnd] ↔ rest = [] := by
  constructor
  · -- Behind the text before there is nothing if the end is there.
    intro spans
    have whole := congrArg List.length (List.append_nil before)
    obtain ⟨same, _, _⟩ := spans
    rw [List.length_append] at same
    exact List.length_eq_zero_iff.mp (by omega)
  · intro none
    subst none
    exact ⟨by simp, textEnd_iff.mpr (by simp)⟩

/-- A sequence that ends with the anchor at the end matches up to there. -/
theorem spans_to_end {text : List Char} {start stop : Nat}
    (spans : Spans text (sequence (regexes ++ [.assert .textEnd])) start stop) : stop = text.length := by
  induction regexes generalizing start with
  | nil =>
    -- The anchor itself stands at the end only.
    obtain ⟨rfl, last⟩ := spans
    exact textEnd_iff.mp last
  | cons regex regexes ih =>
    obtain ⟨middle, _, later⟩ := spans_sequence_cons.mp spans
    exact ih later

/-- A sequence between anchors occurs in a text just if it matches the whole text. -/
theorem occurs_anchored {text : List Char} :
    (sequence (.assert .textStart :: (regexes ++ [.assert .textEnd]))).Occurs text ↔
      Completes [] text (regexes ++ [.assert .textEnd]) := by
  constructor
  · -- The first anchor pins the start, and the last one the stop.
    intro occurs
    obtain ⟨start, stop, spans⟩ := occurs
    obtain ⟨middle, ⟨rfl, first⟩, later⟩ := spans_sequence_cons.mp spans
    rw [textStart_iff.mp first, spans_to_end later] at later
    exact later
  · intro whole
    exact ⟨0, text.length, spans_sequence_cons.mpr ⟨0, ⟨rfl, textStart_iff.mpr rfl⟩, whole⟩⟩

end Regex

open Regex (Completes line)

/-- The symbols of polarities. -/
def Polarity.symbols : CharSet := (CharSet.empty.union (.single '+')).union (.single '-')

/-- Between the two symbols there is another character. -/
theorem Polarity.symbols_eq : symbols = ⟨[(43, 43), (45, 45)]⟩ := by
  simp [symbols, CharSet.union, CharSet.ofRanges, CharSet.single, CharSet.ofCode, CharSet.empty, CharSet.joinFrom,
    Unicode.nextCode, List.mergeSort]

/-- These are the plus sign and the hyphen. -/
theorem Polarity.symbols_contains {c : Char} :
    symbols.contains c = true ↔ ∃ polarity : Polarity, c = polarity.symbol := by
  -- The set is written as ranges of numbers.
  have known : symbols.contains c = true ↔ c = '+' ∨ c = '-' := by
    rw [← Char.toNat_inj, ← Char.toNat_inj]
    simp [symbols_eq, CharSet.contains, CharSet.containsCode]
    omega
  rw [known]
  constructor
  · intro either
    rcases either with rfl | rfl
    · exact ⟨.inclusive, rfl⟩
    · exact ⟨.exclusive, rfl⟩
  · intro found
    obtain ⟨polarity, rfl⟩ := found
    cases polarity
    · exact Or.inl rfl
    · exact Or.inr rfl

namespace RuleText

/-- The regular expression of a shape, whose groups have no names. -/
def Shape.expression : Shape → String
  | plain => "^([+-])\\[(.+)\\](.+)$"
  | parenthesised => "^([+-])\\[\\((.+)\\)\\]\\((.+)\\)$"

/-- The regexes that a shape consists of, without its anchors. -/
def Shape.pieces (shape : Shape) : List Regex :=
  -- What stands around the parts of a rule matches itself.
  let mark := fun signs : List Char => signs.map fun c => Regex.oneOf (.single c)
  [.capture (.oneOf Polarity.symbols)] ++ mark shape.opening ++ [.capture line] ++ mark shape.middle ++
    [.capture line] ++ mark shape.closing

/-- The regex of a shape. -/
def Shape.regex (shape : Shape) : Regex :=
  .sequence (.assert .textStart :: (shape.pieces ++ [.assert .textEnd]))

set_option maxRecDepth 4000 in
/-- The expression of a shape is read as its regex. -/
theorem Shape.ofText_expression (shape : Shape) : Regex.ofText shape.expression.toList = .ok shape.regex := by
  cases shape <;> rfl

/-- The regex of a shape occurs in a text just if the text has parts in that shape. -/
theorem Shape.occurs_iff_splits {shape : Shape} {text : List Char} :
    shape.regex.Occurs text ↔ ∃ parts, Splits shape text parts := by
  -- The text is taken off from the front, piece by piece.
  rw [Shape.regex, Regex.occurs_anchored, Shape.pieces]
  simp only [List.append_assoc, List.cons_append, List.nil_append, Regex.completes_capture,
    Regex.completes_oneOf, Regex.completes_mark, Regex.completes_line, Regex.completes_end]
  constructor
  · intro found
    obtain ⟨sign, _, rfl, known, _, rfl, assembly, _, rfl, filled, oneLine, _, rfl, className, _, rfl, filled',
      oneLine', _, rfl, rfl⟩ := found
    obtain ⟨polarity, rfl⟩ := Polarity.symbols_contains.mp known
    refine ⟨⟨polarity, assembly, className⟩, ⟨filled, filled', oneLine, oneLine'⟩, ?_⟩
    simp [write]
  · intro found
    obtain ⟨⟨polarity, assembly, className⟩, ⟨filled, filled', oneLine, oneLine'⟩, rfl⟩ := found
    refine ⟨polarity.symbol, shape.opening ++ (assembly ++ (shape.middle ++ (className ++ shape.closing))), ?_,
      Polarity.symbols_contains.mpr ⟨polarity, rfl⟩, _, rfl, assembly, _, rfl, filled, oneLine, _, rfl,
      className, _, rfl, filled', oneLine', [], (List.append_nil _).symm, rfl⟩
    simp [write]

/-- The pattern of a shape; the anchors are its own. -/
def Shape.pattern (shape : Shape) : Pattern := { expression := shape.expression, anchored := false }

/-- The pattern of a shape matches a text just if the text has parts in that shape. -/
theorem Shape.isMatch_iff_splits (shape : Shape) (text : String) :
    shape.pattern.isMatch text = true ↔ ∃ parts, Splits shape text.toList parts := by
  -- The regex is small enough, so it is compiled as it is read.
  have fits : shape.regex.fits = true := by
    rw [Shape.regex, Shape.pieces, Polarity.symbols_eq]
    cases shape <;> decide +kernel
  have compiled : shape.pattern.matcher = .ok shape.regex :=
    (compile_of_ofText shape.ofText_expression).trans (if_pos fits)
  have ordered := Regex.ofText_ordered shape.ofText_expression
  rw [Pattern.isMatch, compiled, ← Shape.occurs_iff_splits]
  exact Regex.isMatch_iff_occurs ordered text.toList

/-- A text is of another shape just if the pattern of the shape does not match it. -/
theorem parse_eq_none_iff_isMatch (shape : Shape) (text : String) :
    parse shape text = .ok none ↔ shape.pattern.isMatch text = false := by
  rw [parse_eq_none, ← not_exists, ← shape.isMatch_iff_splits, Bool.not_eq_true]

end RuleText

end ModuleScope
