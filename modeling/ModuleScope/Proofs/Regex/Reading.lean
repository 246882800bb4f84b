import ModuleScope.Proofs.Regex.Spans
import ModuleScope.Regex.Parser

/-! The rounds in which an expression is read, one lemma for each kind of round, where blanks count. -/

namespace ModuleScope

/-- Two computations that succeed one after the other succeed each. -/
theorem bind_eq_ok {ε α β : Type} {outcome : Except ε α} {next : α → Except ε β} {last : β}
    (done : (outcome >>= next) = .ok last) : ∃ found, outcome = .ok found ∧ next found = .ok last := by
  cases outcome with
  | error error => cases done
  | ok found => exact ⟨found, rfl, done⟩

/-- An outcome with a text beside it is there if the outcome is. -/
theorem map_eq_ok {ε α : Type} {outcome : Except ε α} {text rest : List Char} {found : α}
    (done : (outcome.map fun value => (value, text)) = .ok (found, rest)) :
    outcome = .ok found ∧ text = rest := by
  cases outcome with
  | error error => cases done
  | ok value =>
    cases done
    exact ⟨rfl, rfl⟩

/-- A computation that can be seen to succeed does so. -/
theorem exists_ok {ε α : Type} {outcome : Except ε α} (succeeds : outcome.toOption.isSome = true) :
    ∃ found, outcome = .ok found := by
  cases outcome with
  | error error => cases succeeds
  | ok found => exact ⟨found, rfl⟩

/-- A value that is found and passes a check is there. -/
theorem exists_ok_of_any {ε α : Type} {outcome : Except ε α} {check : α → Bool}
    (passes : outcome.toOption.any check = true) : ∃ found, outcome = .ok found ∧ check found = true := by
  cases outcome with
  | error error => cases passes
  | ok found => exact ⟨found, rfl, passes⟩

namespace Regex

/-- The characters that are read in rounds of their own and not as parts. -/
def roundSigns : List Char := ['(', ')', '|', '*', '+', '?', '\x7b']

/-- The characters that do not stand for themselves when they are read as parts. -/
def pieceSigns : List Char := ['[', '\\', '.', '^', '$']

/-- The characters that do not stand for themselves, dots, stars, backslashes and brackets left aside. -/
def liveSigns : List Char := ['+', '?', '(', ')', '|', '\x7b', '^', '$']

variable {fuel : Nat} {names : List (List Char)} {level : Level} {outer : List Level}

/-- A part is added to the branch. -/
theorem readFrom_piece {c : Char} {rest after : List Char} {piece : Piece}
    (strict : level.flags.extended = false) (plain : c ∉ roundSigns)
    (read : readPiece level.flags c rest = .ok (piece, after)) :
    readFrom (fuel + 1) names level outer (c :: rest) =
      readFrom fuel names (level.add piece) outer after := by
  -- The character starts no round of another kind.
  simp only [roundSigns, List.mem_cons, List.not_mem_nil, or_false, not_or] at plain
  simp [readFrom, skipBlank, strict, read, plain, Bind.bind, Except.bind]

/-- A character without a meaning of its own stands for itself. -/
theorem readPiece_plain {flags : Flags} {c : Char} {rest : List Char} (plain : c ∉ pieceSigns)
    (sensitive : flags.ignoreCase = false) :
    readPiece flags c rest = .ok (⟨.oneOf (.single c), 0, false⟩, rest) := by
  simp only [pieceSigns, List.mem_cons, List.not_mem_nil, or_false, not_or] at plain
  simp [readPiece, plain, charSet, wholeChar, sensitive, Bind.bind, Except.bind]

/-- A backslash before a sign makes it stand for itself. -/
theorem readPiece_escaped {flags : Flags} {c : Char} {rest : List Char} (sign : c ∈ metaChars)
    (sensitive : flags.ignoreCase = false) :
    readPiece flags '\\' (c :: rest) = .ok (⟨.oneOf (.single c), 0, false⟩, rest) := by
  -- Each of the signs is on the list of what may be escaped.
  have escaped : readEscape flags (c :: rest) = .ok (.char c false, rest) := by
    simp only [metaChars, List.mem_cons, List.not_mem_nil, or_false] at sign
    rcases sign with rfl | rfl | rfl | rfl | rfl | rfl | rfl | rfl | rfl | rfl | rfl | rfl | rfl |
      rfl | rfl | rfl | rfl | rfl <;> rfl
  simp [readPiece, escaped, charSet, wholeChar, sensitive, Bind.bind, Except.bind]

/-- A dot stands for every character of one line. -/
theorem readPiece_dot {flags : Flags} {rest : List Char} (whole : flags.unicode = true)
    (oneLine : flags.dotAll = false) (bare : flags.crlf = false) :
    readPiece flags '.' rest = .ok (⟨.oneOf (Unicode.CharSet.complement ⟨[(10, 10)]⟩), 0, false⟩, rest) := by
  simp [readPiece, dotSet, whole, oneLine, bare, Bind.bind, Except.bind]

/-- Without a question mark at the front there is no lazy mark to drop. -/
theorem dropLazy_of_ne {text : List Char} (next : text.head? ≠ some '?') : dropLazy text = text := by
  unfold dropLazy
  split
  · exact absurd rfl next
  · rfl

/-- A star repeats the part before it. -/
theorem readFrom_star {rest : List Char} {piece : Piece} {items : List Piece}
    (strict : level.flags.extended = false) (last : level.items = piece :: items)
    (full : piece.bare = false) :
    readFrom (fuel + 1) names level outer ('*' :: rest) =
      readFrom fuel names
        { level with items := ⟨.rep piece.regex 0 none, piece.depth + 1, false⟩ :: items } outer
        (dropLazy rest) := by
  simp [readFrom, skipBlank, strict, Level.repeatLast, last, full, Bind.bind, Except.bind]

/-- A group that does not remember where it matches is opened. -/
theorem readFrom_open {rest : List Char} (strict : level.flags.extended = false) :
    readFrom (fuel + 1) names level outer ('(' :: '?' :: ':' :: rest) =
      readFrom fuel names { flags := level.flags } (level :: outer) rest := by
  simp [readFrom, skipBlank, strict, readOpening, looksAround, readFlags, Bind.bind, Except.bind]

/-- A group is closed and becomes a part of what is around it. -/
theorem readFrom_close {rest : List Char} {above : Level} (strict : level.flags.extended = false) :
    readFrom (fuel + 1) names level (above :: outer) (')' :: rest) =
      readFrom fuel names (above.add level.closed) outer rest := by
  simp [readFrom, skipBlank, strict]

/-- At the end of the text the expression is complete. -/
theorem readFrom_end (strict : level.flags.extended = false) :
    readFrom (fuel + 1) names level [] [] =
      if maxDepth < level.content.depth then .error .tooDeep else .ok level.content.regex := by
  simp [readFrom, skipBlank, strict]

/-- The parts of a branch are joined to a sequence. -/
theorem joinPieces_regex (items : List Piece) :
    (Level.joinPieces .seq items).regex = sequence (items.reverse.map (·.regex)) := by
  -- The parts that have been joined are put behind the ones that come earlier.
  have join : ∀ (rest : List Piece) (regexes : List Regex), regexes ≠ [] →
      rest.foldl (fun after piece => seq piece.regex after) (sequence regexes) =
        sequence (rest.reverse.map (·.regex) ++ regexes) := by
    intro rest
    induction rest with
    | nil => intro regexes _; rfl
    | cons piece rest ih =>
      intro regexes some
      obtain ⟨first, others, rfl⟩ := List.exists_cons_of_ne_nil some
      simpa [sequence] using ih (piece.regex :: first :: others) (by simp)
  match items with
  | [] => rfl
  | [piece] => rfl
  | last :: piece :: rest => simpa [Level.joinPieces, sequence] using join (piece :: rest) [last.regex] (by simp)

/-- Joining parts adds at most one level to the deepest of them. -/
theorem joinPieces_depth (join : Regex → Regex → Regex) {items : List Piece} {depth : Nat}
    (shallow : ∀ piece ∈ items, piece.depth ≤ depth) : (Level.joinPieces join items).depth ≤ depth + 1 := by
  -- No depth that is passed is greater than the bound.
  have deepest : ∀ (depths : List Nat) (first : Nat), first ≤ depth →
      (∀ other ∈ depths, other ≤ depth) →
      depths.foldl max first ≤ depth := by
    intro depths
    induction depths with
    | nil => intro first low _; exact low
    | cons other depths ih =>
      intro first low rest
      refine ih _ (Nat.max_le.mpr ⟨low, rest other List.mem_cons_self⟩) fun more member => ?_
      exact rest more (List.mem_cons_of_mem other member)
  match items with
  | [] => exact Nat.zero_le _
  | [piece] => exact Nat.le_succ_of_le (shallow piece List.mem_cons_self)
  | last :: piece :: rest =>
    refine Nat.succ_le_succ (deepest _ _ (shallow last List.mem_cons_self) fun other member => ?_)
    obtain ⟨part, inside, rfl⟩ := List.mem_map.mp member
    exact shallow part (List.mem_cons_of_mem last inside)

/-- The expression around a group between anchors, when the first anchor has been read. -/
def anchorLevel : Level := { flags := {}, items := [⟨.assert .textStart, 0, false⟩] }

/-- An expression that is read as a group is read as that group between anchors when it is anchored. -/
theorem ofText_anchored {expression : List Char} {group : Level} (strict : group.flags.extended = false)
    (shallow : group.closed.depth < maxDepth)
    (read : ∀ fuel, (expression ++ [')', '$']).length < fuel → ∃ left, 2 < left ∧
      readFrom fuel [] { flags := {} } [anchorLevel] (expression ++ [')', '$']) =
        readFrom left [] group [anchorLevel] [')', '$']) :
    ofText (['^', '(', '?', ':'] ++ expression ++ [')', '$']) =
      .ok (.seq (.assert .textStart) (.seq group.closed.regex (.assert .textEnd))) := by
  have whole : ['^', '(', '?', ':'] ++ expression ++ [')', '$'] =
      '^' :: '(' :: '?' :: ':' :: (expression ++ [')', '$']) := by simp
  -- Before the group there are two rounds, and after it there are three.
  obtain ⟨left, enough, inner⟩ := read ((expression ++ [')', '$']).length + 3) (by omega)
  obtain ⟨left, rfl⟩ := Nat.exists_eq_add_of_le' enough
  have first : readPiece {} '^' ('(' :: '?' :: ':' :: (expression ++ [')', '$'])) =
    .ok (⟨.assert .textStart, 0, false⟩, '(' :: '?' :: ':' :: (expression ++ [')', '$'])) := rfl
  have last : readPiece {} '$' [] = .ok (⟨.assert .textEnd, 0, false⟩, []) := rfl
  -- The anchors are not deep, so the group decides.
  have parts : ∀ piece ∈ [⟨.assert .textEnd, 0, false⟩, group.closed, ⟨.assert .textStart, 0, false⟩],
      piece.depth ≤ maxDepth - 1 := by
    simpa using Nat.le_sub_one_of_lt shallow
  have joined := joinPieces_depth .seq parts
  have content : ((anchorLevel.add group.closed).add ⟨.assert .textEnd, 0, false⟩).content.depth ≤
      maxDepth := joined
  calc ofText (['^', '(', '?', ':'] ++ expression ++ [')', '$'])
    _ = readFrom ((expression ++ [')', '$']).length + 4) [] anchorLevel []
        ('(' :: '?' :: ':' :: (expression ++ [')', '$'])) := by
      rw [whole]
      exact readFrom_piece rfl (by decide) first
    _ = readFrom ((expression ++ [')', '$']).length + 3) [] { flags := {} } [anchorLevel]
        (expression ++ [')', '$']) := readFrom_open rfl
    _ = readFrom (left + 3) [] group [anchorLevel] [')', '$'] := inner
    _ = readFrom (left + 2) [] (anchorLevel.add group.closed) [] ['$'] := readFrom_close strict
    _ = readFrom (left + 1) [] ((anchorLevel.add group.closed).add ⟨.assert .textEnd, 0, false⟩) [] [] :=
      readFrom_piece rfl (by decide) last
    _ = _ := by
      rw [readFrom_end rfl, if_neg (Nat.not_lt.mpr content)]
      rfl

end Regex

end ModuleScope
