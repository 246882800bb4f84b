import ModuleScope.Proofs.Regex.Anchored

/-! An expression in parentheses is read as a group around what the expression alone is read as. -/

namespace ModuleScope.Regex

/-- The text of an expression in parentheses. -/
def groupedText (text : List Char) : List Char := '(' :: (text ++ [')'])

/-- The group, made to remember where it matched. -/
def Level.remembering (level : Level) : Level := { level with captures := true }

/-- The groups around a group, the outermost one made to remember where it matched. -/
def rememberLast : List Level → List Level
  | [] => []
  | [bottom] => [bottom.remembering]
  | level :: above :: outer => level :: rememberLast (above :: outer)

namespace ReadState

/-- The state with the outermost group made to remember where it matched. -/
def remembering : ReadState → ReadState
  | ⟨names, level, []⟩ => ⟨names, level.remembering, []⟩
  | ⟨names, level, above :: outer⟩ => ⟨names, level, rememberLast (above :: outer)⟩

variable (state : ReadState)

/-- The settings in force do not depend on what is remembered. -/
theorem remembering_flags : state.remembering.level.flags = state.level.flags := by
  obtain ⟨names, level, outer⟩ := state
  cases outer <;> rfl

/-- A change of the current group that keeps what it remembers can be made before or after. -/
theorem remembering_setLevel (change : Level → Level)
    (keeps : ∀ level : Level, change level.remembering = (change level).remembering) :
    state.remembering.setLevel (change state.remembering.level) =
      (state.setLevel (change state.level)).remembering := by
  obtain ⟨names, level, outer⟩ := state
  cases outer with
  | nil => exact congrArg (ReadState.mk names · []) (keeps level)
  | cons above outer => rfl

/-- Opening a group does not depend on what is remembered. -/
theorem opened_remembering (opening : Opening) :
    state.remembering.opened opening = (state.opened opening).map remembering := by
  obtain ⟨names, level, outer⟩ := state
  cases opening with
  -- Settings are remembered by nobody.
  | settings flags => cases outer <;> rfl
  | group flags captures name =>
    cases outer with
    | nil =>
      simp only [opened, remembering]
      by_cases taken : name.any names.contains = true <;> simp only [taken] <;> rfl
    | cons above outer =>
      simp only [opened, remembering]
      by_cases taken : name.any names.contains = true <;> simp only [taken] <;> rfl

/-- Closing a group does not depend on what the outermost one remembers. -/
theorem closed_remembering : state.remembering.closed = state.closed.map remembering := by
  obtain ⟨names, level, outer⟩ := state
  match outer with
  | [] => rfl
  | [above] => rfl
  | above :: next :: outer => rfl

/-- A repetition does not depend on what is remembered. -/
theorem repeated_remembering (low : Nat) (high : Option Nat) :
    state.remembering.repeated low high = (state.repeated low high).map remembering := by
  -- A level repeats its last part whether it remembers or not.
  have again : ∀ level : Level,
      level.remembering.repeatLast low high = (level.repeatLast low high).map Level.remembering := by
    intro level
    unfold Level.repeatLast Level.remembering
    dsimp only
    split
    · rfl
    · split <;> rfl
  obtain ⟨names, level, outer⟩ := state
  cases outer with
  | nil =>
    show (level.remembering.repeatLast low high).map _ = ((level.repeatLast low high).map _).map _
    rw [again]
    cases level.repeatLast low high <;> rfl
  | cons above outer =>
    simp only [repeated, remembering]
    cases level.repeatLast low high <;> rfl

/-- A step does not depend on what the outermost group remembers. -/
theorem step_remembering (c : Char) (rest : List Char) :
    state.remembering.step c rest = (state.step c rest).map fun pair => (pair.1.remembering, pair.2) :=
  step_map state remembering rest state.remembering_flags (fun _ => state.opened_remembering)
    (fun _ => state.closed_remembering) state.repeated_remembering
    (state.remembering_setLevel Level.split fun _ => rfl)
    fun piece => state.remembering_setLevel (fun level => level.add piece) fun _ => rfl

/-- Reading does not depend on what the outermost group remembers. -/
theorem read_remembering (text : List Char) :
    state.remembering.read text = (state.read text).map remembering := by
  induction state, text using induction_read with
  | ended state text next =>
    rw [read_nil next, read_nil (state.remembering_flags ▸ next)]
    rfl
  | stepped state text c rest next ih =>
    -- One step is the same, and so is what is read after it.
    rw [read_cons next, read_cons (state.remembering_flags ▸ next), step_remembering]
    cases first : state.step c rest with
    | error error => rfl
    | ok pair => exact ih pair.1 pair.2 first

end ReadState

/-- The expression around all groups before anything has been read. -/
def bottomLevel : Level := { flags := {} }

/-- A valid expression does not start with the mark of a special group. -/
theorem head?_ne_of_valid {text : List Char} {regex : Regex} (valid : ofText text = .ok regex) :
    text.head? ≠ some '?' := by
  intro first
  -- A question mark repeats what stands before it, and nothing does.
  obtain ⟨rest, rfl⟩ := List.head?_eq_some_iff.mp first
  rw [ofText_eq, ReadState.read_cons rfl] at valid
  cases valid

/-- A group that remembers where it matched, before anything has been read in it. -/
def ReadState.inGroup (names : List (List Char)) : ReadState := ⟨names, { flags := {}, captures := true }, []⟩

/-- Without that mark a parenthesis opens a group that remembers where it matched. -/
theorem read_open {state : ReadState} (plain : state.level.flags = {}) {text : List Char}
    (unmarked : text.head? ≠ some '?') :
    state.read ('(' :: text) = ((ReadState.inGroup state.names).under (state.level :: state.outer)).read text := by
  -- No other kind of group starts without the mark.
  have opening : readOpening {} text = .ok (.group {} true none, text) := by
    cases text with
    | nil => rfl
    | cons c text =>
      have other : c ≠ '?' := fun same => unmarked (congrArg some same)
      have around : looksAround (c :: text) = false := by
        simp [looksAround, List.isPrefixOf, Ne.symm other]
      unfold readOpening
      simp only [skipBlank, Bool.false_eq_true, if_false, around]
      split
      · rename_i same
        exact absurd (List.cons.inj same).1 other
      · rename_i same
        exact absurd (List.cons.inj same).1 other
      · rename_i same
        exact absurd (List.cons.inj same).1 other
      · rfl
  have first : skipBlank state.level.flags.extended ('(' :: text) = '(' :: text := by rw [plain]; rfl
  rw [ReadState.read_cons first]
  simp only [ReadState.step, plain]
  rw [opening]
  rfl

/-- A parenthesis before an expression opens a group around it. -/
theorem read_grouped {text : List Char} (unmarked : text.head? ≠ some '?') (more : List Char) :
    ReadState.initial.read ('(' :: (text ++ ')' :: more)) =
      (ReadState.initial.remembering.under [bottomLevel]).read (text ++ ')' :: more) := by
  refine read_open rfl ?_
  cases text with
  | nil => simp
  -- The parenthesis after an empty text is no mark either.
  | cons c text => exact unmarked

/-- The regex of an expression that has been read and that no comment ends is put between the anchors, unless it is
too deep there. -/
theorem ofText_anchored_of_read {text : List Char} {last : ReadState}
    (reached : ReadState.initial.read text = .ok last) (complete : last.outer = [])
    (endless : (ReadState.initial.under [anchorLevel]).read (text ++ [')', '$']) =
      (last.under [anchorLevel]).read [')', '$']) :
    ofText (anchoredText text) =
      if maxDepth < last.level.content.depth + 2 then .error .tooDeep
      else .ok (between last.level.content.regex) := by
  -- The group and the sequence with the anchors are one level each.
  have depth : ((anchorLevel.add last.level.closed).add ⟨.assert .textEnd, 0, false⟩).content.depth =
      last.level.content.depth + 2 := by
    show max (max 0 (last.level.content.depth + 1)) 0 + 1 = _
    omega
  rw [ofText_anchoredText, endless, read_anchor complete, ← closed_regex reached complete, ← depth]
  exact finish_between last.names last.level

/-- What has been read when an expression in parentheses has been read to its end. -/
def groupedState (last : ReadState) : ReadState :=
  ⟨last.names, bottomLevel.add last.level.remembering.closed, []⟩

/-- The group makes an expression deeper by one level. -/
theorem groupedState_depth (last : ReadState) :
    (groupedState last).level.content.depth = last.level.content.depth + 1 := rfl

/-- What is read of an expression is read of it in a group that remembers where it matched. -/
theorem read_remembered {text : List Char} {last : ReadState} (reached : ReadState.initial.read text = .ok last) :
    ReadState.initial.remembering.read text = .ok last.remembering := by
  rw [ReadState.read_remembering]
  exact congrArg (Except.map _) reached

/-- An expression that no comment ends is read in parentheses as a group, and between anchors as it is alone. -/
theorem read_groupedText {text : List Char} {last : ReadState} (unmarked : text.head? ≠ some '?')
    (reached : ReadState.initial.read text = .ok last) (complete : last.outer = [])
    (go : ∀ groups more, Closing more → (ReadState.initial.remembering.under groups).read (text ++ more) =
      (last.remembering.under groups).read more) :
    ReadState.initial.read (groupedText text) = .ok (groupedState last) ∧
      (ReadState.initial.under [anchorLevel]).read (text ++ [')', '$']) =
        (last.under [anchorLevel]).read [')', '$'] := by
  obtain ⟨names, level, outer⟩ := last
  obtain rfl : outer = [] := complete
  -- Both ways to go on are read off what comes after the text in a group.
  constructor
  · -- The parenthesis after the text closes the group.
    have close : ((ReadState.mk names level.remembering []).under [bottomLevel]).step ')' [] =
        .ok (groupedState ⟨names, level, []⟩, []) := rfl
    rw [groupedText, read_grouped unmarked, go [bottomLevel] [')'] closing_parenthesis]
    show ((ReadState.mk names level.remembering []).under [bottomLevel]).read [')'] = _
    rw [ReadState.read_cons (closing_parenthesis.skipBlank _), close]
    exact ReadState.read_empty (groupedState ⟨names, level, []⟩)
  · -- Alone the text is read in the same way, unless a comment goes on at its end.
    rcases ReadState.read_onward reached with go' | swallowed
    · exact go' [anchorLevel] _ closing_anchor
    · -- A comment would have gone on in the group as well.
      have open' : ReadState.initial.read (text ++ [')']) = .ok ⟨names, level, []⟩ :=
        swallowed [] [')'] closing_parenthesis
      have closed : ReadState.initial.remembering.read (text ++ [')']) = .error .unopenedGroup := by
        refine (go [] [')'] closing_parenthesis).trans ?_
        exact ReadState.read_close rfl []
      have both := ReadState.read_remembering ReadState.initial (text ++ [')'])
      rw [open'] at both
      cases both.symm.trans closed

/-- The regex of an expression in parentheses remembers where it matched. -/
theorem ofText_groupedText {text : List Char} {last : ReadState}
    (grouped : ReadState.initial.read (groupedText text) = .ok (groupedState last))
    (shallow : ¬maxDepth < last.level.content.depth + 1) :
    ofText (groupedText text) = .ok (.capture last.level.content.regex) := by
  rw [ofText_eq]
  refine (congrArg (· >>= ReadState.finish) grouped).trans ?_
  -- All groups are closed, so only the depth is left to be checked.
  show (groupedState last).finish = _
  have enough : ¬maxDepth < (groupedState last).level.content.depth := shallow
  simp only [ReadState.finish, enough, if_false]
  rfl

/-- A valid expression whose text in parentheses is valid between anchors is valid between anchors itself, and the
parentheses only remember where it matched. -/
theorem grouped_valid {text : List Char} {regex whole : Regex} (valid : ofText text = .ok regex)
    (compiles : ofText (anchoredText (groupedText text)) = .ok whole) :
    ofText (groupedText text) = .ok (.capture regex) ∧ ofText (anchoredText text) = .ok (between regex) := by
  have unmarked := head?_ne_of_valid valid
  -- The expression alone is read to its end without a group left open.
  rw [ofText_eq] at valid
  obtain ⟨last, reached, done⟩ := bind_eq_ok valid
  obtain ⟨complete, rfl⟩ := finish_ok done
  -- In the parentheses the text is read to its end, unless a comment swallows the closing one.
  rcases ReadState.read_onward (read_remembered reached) with go | swallowed
  · obtain ⟨group, alone⟩ := read_groupedText unmarked reached complete go
    rcases ReadState.read_onward group with go' | swallowed
    · have anchored := ofText_anchored_of_read group rfl (go' [anchorLevel] _ closing_anchor)
      rw [compiles, groupedState_depth] at anchored
      split at anchored
      · cases anchored
      · -- The parentheses fit the depth, so the text does without them.
        rename_i shallow
        refine ⟨ofText_groupedText group (by omega), ?_⟩
        exact (ofText_anchored_of_read reached complete alone).trans (if_neg (by omega))
    · -- The group between the anchors would stay open.
      have inside : ((groupedState last).under [anchorLevel]).outer ≠ [] := List.cons_ne_nil _ _
      rw [ofText_anchoredText, swallowed [anchorLevel] _ closing_anchor] at compiles
      cases (ReadState.finish_open inside).symm.trans compiles
  · -- The group of the parentheses would stay open.
    have failed : ofText (groupedText text) = .error .unclosedGroup := by
      have inside : (last.remembering.under [bottomLevel]).outer ≠ [] :=
        List.append_ne_nil_of_right_ne_nil _ (List.cons_ne_nil _ _)
      have open' := (read_grouped unmarked []).trans (swallowed [bottomLevel] [')'] closing_parenthesis)
      rw [ofText_eq]
      exact (congrArg (· >>= ReadState.finish) open').trans (ReadState.finish_open inside)
    exact absurd compiles (anchored_invalid failed (by decide) whole)

end ModuleScope.Regex
