import ModuleScope.Pattern.Basic
import ModuleScope.Proofs.Regex.Reading
import ModuleScope.Proofs.Regex.Search
import ModuleScope.Proofs.Unicode.CharSet
import ModuleScope.Text.Replace

/-! As a pattern wildcard text matches just those names that it matches read as a glob. -/

namespace ModuleScope

open Unicode (CharSet)

/-- Replacing a character replaces it wherever it stands. -/
theorem Text.replaceAll_char (mark : Char) (new text : List Char) :
    replaceAll [mark] new text = text.flatMap fun c => if c = mark then new else [c] := by
  unfold replaceAll
  -- A pattern of one character is found or not at each single place.
  induction text with
  | nil => rfl
  | cons c rest ih =>
    by_cases same : c = mark
    · simp [replaceFrom, same, ih]
    · have other : ¬ mark = c := fun equal => same equal.symm
      simp [replaceFrom, same, other, ih]

namespace Wildcard

/-- The expression comes of replacing backslashes, then dots, then stars: in this order nothing is replaced twice. -/
theorem expression_eq_replaceAll (text : List Char) :
    Text.replaceAll ['*'] ['.', '*'] (Text.replaceAll ['.'] ['\\', '.']
      (Text.replaceAll ['\\'] ['\\', '\\'] text)) = expression text := by
  simp only [Text.replaceAll_char, List.flatMap_assoc, expression]
  congr 1
  funext c
  -- What a replacement puts in is left alone by the later ones.
  unfold charExpression
  by_cases slash : c = '\\'
  · simp [slash]
  · by_cases dot : c = '.'
    · simp [dot]
    · by_cases star : c = '*' <;> simp [slash, dot, star]

/-- The characters that have a meaning in expressions and are not protected from it. -/
def signs : List Char := ['+', '?', '(', ')', '|', '\x7b', '\x7d', '^', '$']

/-- The characters that a star may stand for. -/
def inLine : CharSet := CharSet.complement ⟨[(10, 10)]⟩

/-- What a character of wildcard text is read as. -/
def charRegex (c : Char) : Regex :=
  if c = '*' then .rep (.oneOf inLine) 0 none else .oneOf (.single c)

/-- What wildcard text is read as. -/
def regexOf (text : List Char) : Regex := .sequence (text.map charRegex)

/-- A star stands for every character but the line feed. -/
theorem inLine_contains (c : Char) : inLine.contains c = true ↔ c ≠ '\n' := by
  -- The set goes up to the last code of a character.
  have top : c.toNat ≤ 0x10FFFF := by
    have valid := c.valid
    simp only [UInt32.isValidChar, Nat.isValidChar] at valid
    unfold Char.toNat
    omega
  rw [ne_eq, ← Char.toNat_inj]
  have ranges : inLine = ⟨[(0, 9), (11, 0x10FFFF)]⟩ := by decide
  simp [ranges, CharSet.contains, CharSet.containsCode]
  omega

/-- A star at the front matches some characters of one line, and then comes the rest. -/
theorem matches_star {text name : List Char} :
    Matches ('*' :: text) name ↔
      ∃ line rest, name = line ++ rest ∧ '\n' ∉ line ∧ Matches text rest := by
  constructor
  · -- The star goes on until it is skipped.
    intro matched
    generalize whole : '*' :: text = pattern at matched
    induction matched with
    | nil => cases whole
    | char plain _ _ =>
      cases whole
      exact absurd rfl plain
    | skip rest _ =>
      cases whole
      exact ⟨[], _, rfl, by simp, rest⟩
    | take other _ ih =>
      obtain ⟨line, rest, rfl, free, matched⟩ := ih whole
      exact ⟨_ :: line, rest, rfl, by simp [free, other.symm], matched⟩
  · -- The star takes the characters of the line one by one.
    rintro ⟨line, rest, rfl, free, matched⟩
    induction line with
    | nil => exact .skip matched
    | cons c line ih =>
      simp only [List.mem_cons, not_or] at free
      exact .take (Ne.symm free.1) (ih free.2)

/-- Any other character at the front matches itself, and then comes the rest. -/
theorem matches_char {c : Char} (plain : c ≠ '*') {text name : List Char} :
    Matches (c :: text) name ↔ ∃ rest, name = c :: rest ∧ Matches text rest := by
  constructor
  · -- No other rule fits a character that is no star.
    intro matched
    cases matched with
    | char _ rest => exact ⟨_, rfl, rest⟩
    | skip _ => exact absurd rfl plain
    | take _ _ => exact absurd rfl plain
  · rintro ⟨rest, rfl, matched⟩
    -- The same character at the front of the name is what the rule asks for.
    exact .char plain matched

/-- Text without stars matches itself and nothing else. -/
theorem matches_starless {text name : List Char} (starless : '*' ∉ text) :
    Matches text name ↔ name = text := by
  induction text generalizing name with
  | nil =>
    constructor
    · intro matched
      cases matched
      -- Only the empty name matches where the text has ended.
      rfl
    · rintro rfl
      exact .nil
  | cons c text ih =>
    simp only [List.mem_cons, not_or] at starless
    -- No character is a star, so each stands for itself.
    rw [matches_char (Ne.symm starless.1)]
    constructor
    · rintro ⟨rest, rfl, matched⟩
      rw [(ih starless.2).mp matched]
    · rintro rfl
      exact ⟨text, rfl, (ih starless.2).mpr rfl⟩

/-- One character of a set is matched just when it comes next. -/
theorem spans_oneOf {name : List Char} {set : CharSet} {start stop : Nat} :
    Regex.Spans name (.oneOf set) start stop ↔
      ∃ c, set.contains c = true ∧ name.drop start = c :: name.drop stop ∧ stop = start + 1 := by
  constructor
  · rintro ⟨c, found, member, rfl⟩
    -- The character at the position is the first one of what is left there.
    obtain ⟨inside, rfl⟩ := List.getElem?_eq_some_iff.mp found
    exact ⟨_, member, List.drop_eq_getElem_cons inside, rfl⟩
  · rintro ⟨c, member, next, rfl⟩
    have found : name[start]? = some c := by rw [← List.head?_drop, next, List.head?_cons]
    exact ⟨c, found, member, rfl⟩

/-- As many characters of one line are matched as there are rounds. -/
theorem iterate_inLine {name : List Char} {count start stop : Nat} :
    Iterate (Regex.Spans name (.oneOf inLine)) count start stop ↔
      ∃ line, line.length = count ∧ '\n' ∉ line ∧ name.drop start = line ++ name.drop stop ∧
        stop = start + count := by
  induction count generalizing start with
  | zero =>
    constructor
    · rintro rfl
      -- Without rounds no character is taken.
      exact ⟨[], rfl, by simp, rfl, rfl⟩
    · rintro ⟨_, _, _, _, same⟩
      exact same.symm
  | succ count ih =>
    constructor
    · -- The first round takes the first character of the line.
      rintro ⟨middle, now, rest⟩
      obtain ⟨c, member, next, rfl⟩ := spans_oneOf.mp now
      obtain ⟨line, size, free, parts, same⟩ := ih.mp rest
      have other := (inLine_contains c).mp member
      refine ⟨c :: line, by simp [size], by simp [free, other.symm], ?_, by omega⟩
      rw [next, parts, List.cons_append]
    · rintro ⟨line, size, free, parts, same⟩
      obtain ⟨c, line, rfl⟩ := List.exists_cons_of_length_eq_add_one size
      simp only [List.mem_cons, not_or] at free
      -- The characters after the first one are the rest of the line.
      have rest : name.drop (start + 1) = line ++ name.drop stop := by
        rw [← List.tail_drop, parts, List.cons_append, List.tail_cons]
      refine ⟨start + 1, spans_oneOf.mpr ⟨c, (inLine_contains c).mpr (Ne.symm free.1), ?_, rfl⟩, ?_⟩
      · rw [rest, parts, List.cons_append]
      · exact ih.mpr ⟨line, Nat.succ.inj size, free.2, rest, by omega⟩

/-- A star is read as what matches some characters of one line. -/
theorem spans_star {name : List Char} {start stop : Nat} :
    Regex.Spans name (charRegex '*') start stop ↔
      ∃ line, '\n' ∉ line ∧ name.drop start = line ++ name.drop stop ∧
        stop = start + line.length ∧ start ≤ name.length := by
  constructor
  · -- There is no bound on the number of rounds.
    rintro ⟨count, _, _, inside, rounds⟩
    obtain ⟨line, rfl, free, parts, same⟩ := iterate_inLine.mp rounds
    exact ⟨line, free, parts, same, inside⟩
  · rintro ⟨line, free, parts, same, inside⟩
    -- As many rounds are made as the line has characters.
    refine ⟨line.length, Nat.zero_le _, by simp, inside, ?_⟩
    exact iterate_inLine.mpr ⟨line, rfl, free, parts, same⟩

/-- What wildcard text is read as matches the rest of a name just when the text does. -/
theorem spans_regexOf {text name : List Char} {start : Nat} (inside : start ≤ name.length) :
    Regex.Spans name (regexOf text) start name.length ↔ Matches text (name.drop start) := by
  induction text generalizing start with
  | nil =>
    constructor
    · -- Where the text ends the name must have ended.
      rintro ⟨rfl, _⟩
      rw [List.drop_length]
      exact .nil
    · intro matched
      -- Nothing is left of the name, so the position is its end.
      cases empty : name.drop start with
      | cons _ _ => rw [empty] at matched; cases matched
      | nil => exact ⟨Nat.le_antisymm inside (List.drop_eq_nil_iff.mp empty), inside⟩
  | cons c text ih =>
    have split : Regex.Spans name (regexOf (c :: text)) start name.length ↔ ∃ middle,
        Regex.Spans name (charRegex c) start middle ∧
        Regex.Spans name (regexOf text) middle name.length := Regex.spans_sequence_cons
    rw [split]
    -- The first character is matched, and then the rest of the text is.
    by_cases star : c = '*'
    · subst star
      rw [matches_star]
      constructor
      · rintro ⟨middle, now, rest⟩
        obtain ⟨line, free, parts, _, _⟩ := spans_star.mp now
        exact ⟨line, name.drop middle, parts, free, (ih now.bounds.2).mp rest⟩
      · rintro ⟨line, rest, parts, free, matched⟩
        -- The rest is what comes after the line.
        have after : rest = name.drop (start + line.length) := by
          rw [← List.drop_drop, parts, List.drop_left]
        subst after
        have now := spans_star.mpr ⟨line, free, parts, rfl, inside⟩
        exact ⟨_, now, (ih now.bounds.2).mpr matched⟩
    · rw [matches_char star]
      -- Any other character takes one step through the name.
      have single : charRegex c = .oneOf (.single c) := if_neg star
      constructor
      · rintro ⟨middle, now, rest⟩
        rw [single] at now
        obtain ⟨other, member, next, _⟩ := spans_oneOf.mp now
        rw [(CharSet.single_contains c other).mp member] at next
        exact ⟨name.drop middle, next, (ih now.bounds.2).mp rest⟩
      · rintro ⟨rest, next, matched⟩
        have after : rest = name.drop (start + 1) := by
          rw [← List.tail_drop, next, List.tail_cons]
        subst after
        have now := spans_oneOf.mpr ⟨c, (CharSet.single_contains c c).mpr rfl, next, rfl⟩
        exact ⟨start + 1, single ▸ now, (ih now.bounds.2).mpr matched⟩

open Regex

/-- The part that a character of wildcard text is read as. -/
def charPiece (c : Char) : Piece := ⟨charRegex c, if c = '*' then 1 else 0, false⟩

/-- A character that is no sign stands for itself. -/
theorem not_live {c : Char} (plain : c ∉ signs) : c ∉ liveSigns := by
  -- The signs with a meaning here are some of those that are left out.
  simp only [signs, liveSigns, List.mem_cons, List.not_mem_nil, or_false, not_or] at plain ⊢
  simp [plain]

/-- What one character of wildcard text becomes is read as the part of that character. -/
theorem readFrom_charExpression (names : List (List Char)) (outer : List Level) {fuel : Nat}
    {level : Level} {after : List Char} {c : Char} (flags : level.flags = {})
    (plain : c ∉ liveSigns) (bracket : c ≠ '[') (next : after.head? ≠ some '?')
    (enough : (charExpression c ++ after).length < fuel) :
    ∃ left, after.length < left ∧ readFrom fuel names level outer (charExpression c ++ after) =
      readFrom left names (level.add (charPiece c)) outer after := by
  have strict : level.flags.extended = false := by rw [flags]
  obtain ⟨fuel, rfl⟩ : ∃ rest, fuel = rest + 1 := ⟨fuel - 1, by omega⟩
  by_cases escaped : c = '\\' ∨ c = '.'
  · -- The backslash before the character keeps its meaning away.
    have sign : c ∈ metaChars := by rcases escaped with rfl | rfl <;> decide
    have whole : charExpression c = ['\\', c] := by rcases escaped with rfl | rfl <;> rfl
    have piece : charPiece c = ⟨.oneOf (.single c), 0, false⟩ := by
      rcases escaped with rfl | rfl <;> rfl
    rw [whole] at enough ⊢
    refine ⟨fuel, by simp at enough; omega, ?_⟩
    rw [piece]
    exact readFrom_piece strict (by decide) (readPiece_escaped sign (by rw [flags]))
  · simp only [not_or] at escaped
    by_cases star : c = '*'
    · -- The dot is read first, and then the star repeats it.
      subst star
      have whole : charExpression '*' = ['.', '*'] := rfl
      rw [whole] at enough ⊢
      simp only [List.cons_append, List.nil_append, List.length_cons] at enough ⊢
      obtain ⟨fuel, rfl⟩ : ∃ rest, fuel = rest + 1 := ⟨fuel - 1, by omega⟩
      refine ⟨fuel, by omega, ?_⟩
      have dot : readPiece level.flags '.' ('*' :: after) = .ok (⟨.oneOf inLine, 0, false⟩, '*' :: after) :=
        readPiece_dot (by rw [flags]) (by rw [flags]) (by rw [flags])
      have still : (level.add ⟨.oneOf inLine, 0, false⟩).flags.extended = false := strict
      rw [readFrom_piece strict (by decide) dot, readFrom_star still rfl rfl, dropLazy_of_ne next]
      rfl
    · -- Any other character stands for itself.
      have whole : charExpression c = [c] := by simp [charExpression, escaped, star]
      have piece : charPiece c = ⟨.oneOf (.single c), 0, false⟩ := by simp [charPiece, charRegex, star]
      rw [whole] at enough ⊢
      refine ⟨fuel, by simp at enough; omega, ?_⟩
      rw [piece]
      simp only [liveSigns, List.mem_cons, List.not_mem_nil, or_false, not_or] at plain
      have rounds : c ∉ roundSigns := by simp [roundSigns, plain, star]
      have pieces : c ∉ pieceSigns := by simp [pieceSigns, plain, escaped, bracket]
      exact readFrom_piece strict rounds (readPiece_plain pieces (by rw [flags]))

/-- No question mark comes first in what wildcard text becomes, if none comes after it. -/
theorem head?_expression {text after : List Char} (plain : ∀ c ∈ text, c ∉ liveSigns)
    (next : after.head? ≠ some '?') : (expression text ++ after).head? ≠ some '?' := by
  cases text with
  | nil => exact next
  | cons c rest =>
    -- A question mark is one of the signs that are left out.
    have mark : c ≠ '?' := by
      rintro rfl
      exact plain '?' List.mem_cons_self (by decide)
    -- The first character is a backslash, a dot or the character itself.
    simp only [expression, List.flatMap_cons, charExpression]
    split
    · simp
    · split
      · simp
      · split <;> simp [mark]

/-- What wildcard text becomes is read as the parts of its characters. -/
theorem readFrom_expression (names : List (List Char)) (level : Level) (outer : List Level)
    {fuel : Nat} {text after : List Char} (flags : level.flags = {})
    (plain : ∀ c ∈ text, c ∉ liveSigns) (bracket : '[' ∉ text) (next : after.head? ≠ some '?')
    (enough : (expression text ++ after).length < fuel) :
    ∃ left, after.length < left ∧ readFrom fuel names level outer (expression text ++ after) =
      readFrom left names { level with items := (text.map charPiece).reverse ++ level.items } outer
        after := by
  induction text generalizing level fuel with
  | nil => exact ⟨fuel, enough, rfl⟩
  | cons c text ih =>
    -- The first character is read, and then what the rest becomes.
    have whole : expression (c :: text) ++ after = charExpression c ++ (expression text ++ after) := by
      simp [expression]
    simp only [List.mem_cons, not_or] at bracket
    have others : ∀ other ∈ text, other ∉ liveSigns := fun other member =>
      plain other (List.mem_cons_of_mem c member)
    rw [whole] at enough ⊢
    obtain ⟨middle, enough, read⟩ := readFrom_charExpression names outer flags
      (plain c List.mem_cons_self) (Ne.symm bracket.1) (head?_expression others next) enough
    have same : (level.add (charPiece c)).flags = {} := flags
    obtain ⟨left, remaining, rest⟩ := ih _ same others bracket.2 enough
    refine ⟨left, remaining, ?_⟩
    rw [read, rest]
    simp [Level.add]

/-- The whole expression of wildcard text: it stands in a group between the anchors. -/
def anchored (text : List Char) : Regex :=
  .seq (.assert .textStart) (.seq (regexOf text) (.assert .textEnd))

/-- The group around the parts of wildcard text. -/
def groupLevel (text : List Char) : Level := { flags := {}, items := (text.map charPiece).reverse }

/-- The group holds what the text is read as. -/
theorem groupLevel_closed (text : List Char) :
    (groupLevel text).closed.regex = regexOf text ∧ (groupLevel text).closed.depth ≤ 3 := by
  -- Each part is at most one repetition deep.
  have shallow : ∀ piece ∈ (text.map charPiece).reverse, piece.depth ≤ 1 := by
    intro piece member
    obtain ⟨c, _, rfl⟩ := List.mem_map.mp (List.mem_reverse.mp member)
    unfold charPiece
    split <;> simp
  constructor
  · -- The parts of the group are those of the text, in order.
    have joined := joinPieces_regex (text.map charPiece).reverse
    rw [List.reverse_reverse, List.map_map] at joined
    exact joined
  · have joined := joinPieces_depth .seq shallow
    exact Nat.succ_le_succ joined

/-- The anchored expression of wildcard text is read as what the text is read as, between the anchors. -/
theorem ofText_expression {text : List Char} (plain : ∀ c ∈ text, c ∉ liveSigns) (bracket : '[' ∉ text) :
    ofText (['^', '(', '?', ':'] ++ expression text ++ [')', '$']) = .ok (anchored text) := by
  have closed := groupLevel_closed text
  have shallow : (groupLevel text).closed.depth < maxDepth := Nat.lt_of_le_of_lt closed.2 (by decide)
  -- The text is read as a group that the end anchor closes.
  have read : ∀ fuel, (expression text ++ [')', '$']).length < fuel → ∃ left, 2 < left ∧
      readFrom fuel [] { flags := {} } [anchorLevel] (expression text ++ [')', '$']) =
        readFrom left [] (groupLevel text) [anchorLevel] [')', '$'] := by
    intro fuel enough
    obtain ⟨left, more, read⟩ := readFrom_expression [] { flags := {} } [anchorLevel] rfl plain bracket
      (by decide) enough
    exact ⟨left, more, by simpa [groupLevel] using read⟩
  rw [ofText_anchored rfl shallow read, closed.1]
  rfl

/-- What wildcard text is read as has no upper bounds on its repetitions. -/
theorem anchored_ordered (text : List Char) : (anchored text).Ordered := by
  -- Only stars are repetitions, and they have no bound.
  have each : ∀ regex ∈ text.map charRegex, regex.Ordered := by
    intro regex member
    obtain ⟨c, _, rfl⟩ := List.mem_map.mp member
    unfold charRegex
    split
    · exact ⟨trivial, fun _ bound => by cases bound⟩
    · trivial
  exact ⟨trivial, ordered_sequence each, trivial⟩

/-- The pattern of wildcard text without reserved characters and signs can fail to compile only because it is too
large, and otherwise it matches just the names that the text matches as a glob. -/
theorem wildcard_matches_globs (kind : NameKind) (text : String)
    (free : ∀ c ∈ text.toList, c ∉ kind.reserved) (plain : ∀ c ∈ text.toList, c ∉ signs) :
    ∃ pattern, Pattern.wildcard text kind = .ok pattern ∧
      (∀ error, pattern.matcher = .error error → error = .tooLarge) ∧
      ∀ regex, pattern.matcher = .ok regex → ∀ name : String,
        pattern.isMatch name = true ↔ Matches text.toList name.toList := by
  have unreserved : hasReserved kind text.toList = false := by
    simpa [hasReserved, List.any_eq_false] using free
  -- No sign but those that are escaped is left.
  have dead : ∀ c ∈ text.toList, c ∉ liveSigns := fun c member => not_live (plain c member)
  have bracket : '[' ∉ text.toList := fun member => free '[' member (by cases kind <;> decide)
  refine ⟨Pattern.regex (String.ofList (expression text.toList)), ?_, ?_⟩
  · -- The check for reserved characters is passed.
    simp [Pattern.wildcard, unreserved]
  -- Compiling reads the anchored expression and then looks at its size.
  have compiled : (Pattern.regex (String.ofList (expression text.toList))).matcher =
      if (anchored text.toList).fits then .ok (anchored text.toList) else .error .tooLarge := by
    rw [Pattern.matcher_eq, matcherOf, Regex.compile]
    simp only [Pattern.regex, if_true, String.toList_ofList]
    have read := ofText_expression dead bracket
    rw [show "^(?:".toList = ['^', '(', '?', ':'] from rfl, show ")$".toList = [')', '$'] from rfl, read]
    rfl
  constructor
  · intro error failed
    -- The size is all that can be wrong.
    rw [compiled] at failed
    split at failed <;> cases failed
    rfl
  · intro regex built name
    have same : regex = anchored text.toList := by
      rw [compiled] at built
      split at built <;> cases built
      rfl
    -- Between the anchors the expression spans the whole name.
    have whole : Regex.Spans name.toList (regexOf text.toList) 0 name.toList.length ↔
        Matches text.toList name.toList := spans_regexOf (Nat.zero_le _)
    rw [Pattern.isMatch, built, same, ← whole, ← occurs_between_anchors]
    exact isMatch_iff_occurs (anchored_ordered text.toList) name.toList

/-- The text `a.*` matches file names that start with its first two characters, and the dot is only a dot. -/
theorem wildcard_matches_file_names :
    ∃ pattern, Pattern.wildcard "a.*" .fileName = .ok pattern ∧
      pattern.isMatch "a.so" = true ∧ pattern.isMatch "also" = false := by
  obtain ⟨pattern, built, _, matched⟩ :=
    wildcard_matches_globs .fileName "a.*" (by simp [NameKind.reserved]) (by simp [signs])
  have compiles : (Pattern.wildcard "a.*" .fileName).toOption.any
      (fun pattern => pattern.matcher.toOption.isSome) = true := by decide +kernel
  obtain ⟨regex, compiled⟩ : ∃ regex, pattern.matcher = .ok regex := by
    rw [built] at compiles
    cases outcome : pattern.matcher with
    | ok regex => exact ⟨regex, rfl⟩
    | error error => simp [outcome, Except.toOption] at compiles
  -- The star takes the last two characters of the first name, and the second name has no dot.
  refine ⟨pattern, built, (matched regex compiled "a.so").mpr ?_, ?_⟩
  · exact .char (by decide) (.char (by decide) (.take (by decide) (.take (by decide) (.skip .nil))))
  · rw [Bool.eq_false_iff, ne_eq, matched regex compiled "also"]
    intro glob
    obtain ⟨_, same, glob⟩ := (matches_char (by decide)).mp glob
    obtain ⟨_, other, _⟩ := (matches_char (by decide)).mp ((List.cons.inj same).2 ▸ glob)
    cases other

end Wildcard

end ModuleScope
