import ModuleScope.Proofs.Regex.Extension.Parser

/-! An expression between anchors is an expression if it is one alone, up to comments at its end and groups that it
closes without opening them. -/

namespace ModuleScope.Regex

/-- The text of an expression that has to match from the start of a text to its end. -/
def anchoredText (text : List Char) : List Char := ['^', '(', '?', ':'] ++ text ++ [')', '$']

/-- The regex that has to match from the start of a text to its end. -/
def between (regex : Regex) : Regex := .seq (.assert .textStart) (.seq regex (.assert .textEnd))

/-- The text is a regular expression by itself. -/
def IsExpression (text : List Char) : Prop := ∃ regex, ofText text = .ok regex

/-- The text is a regular expression that ends in a comment, so that a parenthesis after it changes nothing. -/
def EndsInComment (text : List Char) : Prop :=
  -- Outside a comment the parenthesis would close a group that is not open.
  ∃ regex, ofText text = .ok regex ∧ ofText (text ++ [')']) = .ok regex

/-- The state before an expression is read. -/
def ReadState.initial : ReadState := ⟨[], { flags := {} }, []⟩

/-- Between anchors an expression is read inside a group. -/
theorem ofText_anchoredText (text : List Char) :
    ofText (anchoredText text) =
      (ReadState.initial.under [anchorLevel]).read (text ++ [')', '$']) >>= ReadState.finish := by
  -- The first anchor and the opening of the group are two steps.
  have whole : anchoredText text = '^' :: '(' :: '?' :: ':' :: (text ++ [')', '$']) := by simp [anchoredText]
  rw [ofText_eq, whole]
  rw [ReadState.read_cons rfl]
  show ((ReadState.mk [] anchorLevel []).read ('(' :: '?' :: ':' :: (text ++ [')', '$']))) >>= _ = _
  rw [ReadState.read_cons rfl]
  rfl

/-- The parenthesis and the anchor after an expression are the end of a group. -/
theorem closing_anchor : Closing [')', '$'] := ⟨['$'], rfl, by decide⟩

/-- The parenthesis after an expression is the end of a group. -/
theorem closing_parenthesis : Closing [')'] := ⟨[], rfl, List.not_mem_nil⟩

/-- The regex of a group between anchors. -/
theorem finish_between (names : List (List Char)) (group : Level) :
    let whole := (anchorLevel.add group.closed).add ⟨.assert .textEnd, 0, false⟩
    (ReadState.mk names whole []).finish =
      if maxDepth < whole.content.depth then .error .tooDeep
      else .ok (between group.closed.regex) := by
  simp only [ReadState.finish, List.isEmpty_nil, Bool.not_true, Bool.false_eq_true, if_false]
  rfl

/-- Outside a comment an expression that has been read is closed and followed by the end anchor. -/
theorem read_anchor {state : ReadState} (complete : state.outer = []) :
    (state.under [anchorLevel]).read [')', '$'] =
      .ok ⟨state.names, (anchorLevel.add state.level.closed).add ⟨.assert .textEnd, 0, false⟩, []⟩ := by
  rw [ReadState.read_cons (closing_anchor.skipBlank _)]
  -- The parenthesis closes the group of the text.
  simp only [ReadState.step, ReadState.closed, ReadState.under, complete, List.nil_append]
  rw [Except.map]
  show (ReadState.mk state.names (anchorLevel.add state.level.closed) []).read ['$'] = _
  have anchor : (ReadState.mk state.names (anchorLevel.add state.level.closed) []).step '$' [] =
      .ok (⟨state.names, (anchorLevel.add state.level.closed).add ⟨.assert .textEnd, 0, false⟩, []⟩, []) := rfl
  -- The dollar is a condition of the group that holds the anchors.
  rw [ReadState.read_cons rfl, anchor]
  simp only [Bind.bind, Except.bind]
  exact ReadState.read_empty _

/-- An expression is complete when all groups are closed and it is not too deep. -/
theorem finish_ok {state : ReadState} {regex : Regex} (done : state.finish = .ok regex) :
    state.outer = [] ∧ state.level.content.regex = regex := by
  unfold ReadState.finish at done
  split at done
  · cases done
  split at done
  · cases done
  · rename_i complete _
    cases done
    exact ⟨by simpa using complete, rfl⟩

/-- The group of an expression that is complete does not remember where it matched. -/
theorem closed_regex {text : List Char} {last : ReadState} (reached : ReadState.initial.read text = .ok last)
    (complete : last.outer = []) : last.level.closed.regex = last.level.content.regex := by
  -- The outermost group is the one that reading started with.
  have plain := ReadState.run_bottom reached
  simp only [ReadState.bottom, complete, ReadState.initial, List.map_cons, List.map_nil, List.getLast?_singleton,
    Option.some.injEq] at plain
  simp [Level.closed, plain]

/-- What stands between the anchors has been read to its end, or else the last parenthesis belongs to a comment. -/
theorem ofText_valid {text : List Char} {regex : Regex} (valid : ofText text = .ok regex) :
    (ofText (text ++ [')']) = .error .unopenedGroup ∧
      (ofText (anchoredText text) = .ok (between regex) ∨ ofText (anchoredText text) = .error .tooDeep)) ∨
    ofText (text ++ [')']) = .ok regex ∧ ofText (anchoredText text) = .error .unclosedGroup := by
  rw [ofText_eq] at valid
  -- How the text alone is read decides how it goes on in both cases.
  obtain ⟨last, reached, done⟩ := bind_eq_ok valid
  obtain ⟨complete, content⟩ := finish_ok done
  have alone : ofText (text ++ [')']) =
      (ReadState.initial.under []).read (text ++ [')']) >>= ReadState.finish := ofText_eq _
  rw [ofText_anchoredText, alone]
  rcases ReadState.read_onward reached with go | swallowed
  · -- The parenthesis is read after the text: alone it has nothing to close, between anchors it closes the group.
    have parenthesis := go [] [')'] closing_parenthesis
    have anchor := (go [anchorLevel] [')', '$'] closing_anchor).trans (read_anchor complete)
    refine Or.inl ⟨?_, ?_⟩
    · have outermost : (last.under []).outer = [] := by rw [ReadState.under_nil, complete]
      exact congrArg (· >>= ReadState.finish) (parenthesis.trans (ReadState.read_close outermost []))
    · rw [show (ReadState.initial.under [anchorLevel]).read (text ++ [')', '$']) = _ from anchor, ← content,
        ← closed_regex reached complete]
      simp only [Bind.bind, Except.bind]
      rw [finish_between]
      split
      · exact Or.inr rfl
      · exact Or.inl rfl
  · -- A comment goes on through what comes after the text, so the group stays open.
    have parenthesis := swallowed [] [')'] closing_parenthesis
    have anchor := swallowed [anchorLevel] [')', '$'] closing_anchor
    refine Or.inr ⟨?_, ?_⟩
    · rw [ReadState.under_nil last] at parenthesis
      exact (congrArg (· >>= ReadState.finish) parenthesis).trans done
    · have inside : (last.under [anchorLevel]).outer ≠ [] := by simp [ReadState.under]
      exact (congrArg (· >>= ReadState.finish) anchor).trans (ReadState.finish_open inside)

/-- An expression that does not end in a comment is the same between anchors, unless it is too deep there. -/
theorem anchored_valid {text : List Char} {regex : Regex} (valid : ofText text = .ok regex)
    (endless : ¬EndsInComment text) :
    ofText (anchoredText text) = .ok (between regex) ∨ ofText (anchoredText text) = .error .tooDeep := by
  rcases ofText_valid valid with ⟨_, whole⟩ | ⟨swallowed, _⟩
  · -- The parenthesis belongs to no comment, so it closes the group.
    exact whole
  · exact absurd ⟨regex, valid, swallowed⟩ endless

/-- An expression that ends in a comment is none between anchors. -/
theorem anchored_comment {text : List Char} (ends : EndsInComment text) :
    ofText (anchoredText text) = .error .unclosedGroup := by
  obtain ⟨regex, valid, swallowed⟩ := ends
  rcases ofText_valid valid with ⟨refused, _⟩ | ⟨_, whole⟩
  · cases refused.symm.trans swallowed
  · exact whole

/-- Between anchors the content of a group lies deeper. -/
theorem between_deeper (group : Level) :
    group.content.depth < ((anchorLevel.add group.closed).add ⟨.assert .textEnd, 0, false⟩).content.depth := by
  -- The group and the sequence around it add a level each.
  show group.content.depth < max (max 0 (group.content.depth + 1)) 0 + 1
  omega

/-- Where groups are left open the end anchor closes too few. -/
theorem read_anchor_open {state : ReadState} (inside : state.outer ≠ []) (regex : Regex) :
    (state.under [anchorLevel]).read [')', '$'] >>= ReadState.finish ≠ .ok regex := by
  obtain ⟨above, outer, same⟩ := List.exists_cons_of_ne_nil inside
  -- The parenthesis closes a group of the state and not the one between the anchors.
  have close : (state.under [anchorLevel]).step ')' ['$'] =
      .ok (⟨state.names, above.add state.level.closed, outer ++ [anchorLevel]⟩, ['$']) := by
    simp [ReadState.step, ReadState.closed, ReadState.under, same, Except.map]
  -- What is left is too short to close another group.
  rw [ReadState.read_cons (closing_anchor.skipBlank _), close]
  have open' : outer ++ [anchorLevel] ≠ [] := by simp
  exact ReadState.run_lost (Or.inl (List.suffix_refl ['$'])) (by decide) open' 2 regex

/-- A text that is refused for another reason than a group that it does not open is refused between anchors. -/
theorem anchored_invalid {text : List Char} {error : SyntaxError} (failed : ofText text = .error error)
    (other : error ≠ .unopenedGroup) (regex : Regex) : ofText (anchoredText text) ≠ .ok regex := by
  rw [ofText_eq] at failed
  rw [ofText_anchoredText]
  cases outcome : ReadState.initial.read text with
  | error error' =>
    -- Reading fails inside the text, where it fails between anchors.
    have same : error' = error := Except.error.inj ((congrArg (· >>= ReadState.finish) outcome).symm.trans failed)
    exact ReadState.read_astray outcome (same ▸ other) (List.cons_ne_nil _ _) (by decide) (by decide) regex
  | ok last =>
    have unfinished : last.finish = .error error :=
      (congrArg (· >>= ReadState.finish) outcome).symm.trans failed
    rcases ReadState.read_onward outcome with go | swallowed
    · -- The text is read to its end, and what is wrong shows only then.
      rw [go [anchorLevel] [')', '$'] closing_anchor]
      by_cases complete : last.outer = []
      · -- Nothing but the depth is left that could be wrong.
        have deep : maxDepth < last.level.content.depth := by
          refine Nat.lt_of_not_le fun shallow => ?_
          simp [ReadState.finish, complete, Nat.not_lt.mpr shallow] at unfinished
        rw [read_anchor complete]
        simp only [Bind.bind, Except.bind]
        rw [finish_between, if_pos (Nat.lt_trans deep (between_deeper last.level))]
        intro done
        cases done
      · -- A group of the text is still open, and it is closed instead of the one between the anchors.
        exact read_anchor_open complete regex
    · have inside : (last.under [anchorLevel]).outer ≠ [] := by simp [ReadState.under]
      rw [swallowed [anchorLevel] [')', '$'] closing_anchor]
      simp only [Bind.bind, Except.bind]
      rw [ReadState.finish_open inside]
      intro done
      cases done

end ModuleScope.Regex
