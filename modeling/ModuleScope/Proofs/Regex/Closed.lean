import ModuleScope.Proofs.Regex.Grouped

/-! The parenthesis that closes a group stands behind a text that can be read alone. So where expressions by themselves
are put together, a group of one of them is never closed inside another one. -/

namespace ModuleScope.Regex

/-- Where blanks have been dropped before the end of a group they have been dropped without it, too. -/
theorem skipBlank_before {extended : Bool} {front rest tail : List Char} (line : '\n' ∉ tail)
    (next : skipBlank extended (front ++ ')' :: tail) = rest ++ ')' :: tail) : skipBlank extended front = rest := by
  rcases (skipBlank_steady extended front).onward rfl with go | ⟨_, swallowed⟩
  · -- Without a comment the blanks end where they did.
    have both := congrArg Prod.snd (Except.ok.inj (go _ ⟨tail, rfl, line⟩))
    exact List.append_cancel_right (both.symm.trans next)
  · -- A comment would have gone on behind the parenthesis.
    have both := congrArg Prod.snd (Except.ok.inj (swallowed _ ⟨tail, rfl, line⟩))
    exact absurd (next.symm.trans both) (by simp)

namespace ReadState

/-- The state in which groups before it have names, too. -/
def naming (names : List (List Char)) (state : ReadState) : ReadState := { state with names := state.names ++ names }

variable (names : List (List Char)) (state : ReadState)

/-- A group is opened in the same way behind other names, unless it takes one of them. -/
theorem opened_naming (opening : Opening) :
    (state.naming names).opened opening = (state.opened opening).map (naming names) ∨
      (state.naming names).opened opening = .error .duplicateName := by
  cases opening with
  -- Settings take no name.
  | settings flags => exact Or.inl rfl
  | group flags captures name =>
    simp only [opened]
    by_cases taken : name.any (state.naming names).names.contains = true
    · exact Or.inr (if_pos taken)
    · -- A name that nobody has is not among those of the state.
      have free : ¬name.any state.names.contains = true := by
        cases name with
        | none => simp
        | some name =>
          simp only [naming, Option.any_some, List.contains_eq_mem, List.mem_append, decide_eq_true_eq,
            not_or] at taken ⊢
          exact taken.1
      rw [if_neg taken, if_neg free]
      exact Or.inl (congrArg (fun all => Except.ok (ReadState.mk all _ _)) (List.append_assoc ..).symm)

/-- A step is the same behind other names, unless it takes one of them. -/
theorem step_naming (c : Char) (rest : List Char) :
    (state.naming names).step c rest = (state.step c rest).map (fun pair => (pair.1.naming names, pair.2)) ∨
      (state.naming names).step c rest = .error .duplicateName := by
  by_cases opens : c = '('
  · subst opens
    simp only [step]
    show (readOpening state.level.flags rest >>= _) = (readOpening state.level.flags rest >>= _).map _ ∨
      (readOpening state.level.flags rest >>= _) = _
    cases readOpening state.level.flags rest with
    | error error => exact Or.inl rfl
    | ok pair =>
      simp only [Bind.bind, Except.bind]
      -- What opens the group decides.
      rcases state.opened_naming names pair.1 with same | taken
      · rw [same]
        exact Or.inl (by cases state.opened pair.1 <;> rfl)
      · rw [taken]
        exact Or.inr rfl
  · -- Only an opening parenthesis looks at the names.
    refine Or.inl (step_map state (naming names) rest rfl (fun same => absurd same opens) (fun _ => ?_) ?_ rfl
      fun _ => rfl)
    · obtain ⟨_, _, outer⟩ := state
      cases outer <;> rfl
    · intro low high
      show (state.level.repeatLast low high).map _ = ((state.level.repeatLast low high).map _).map _
      cases state.level.repeatLast low high <;> rfl

/-- A text is read in the same way behind other names, unless it takes one of them. -/
theorem read_naming (text : List Char) :
    (state.naming names).read text = (state.read text).map (naming names) ∨
      (state.naming names).read text = .error .duplicateName := by
  induction state, text using induction_read with
  | ended state text next =>
    rw [read_nil next, @read_nil (state.naming names) _ next]
    exact Or.inl rfl
  | stepped state text c rest next ih =>
    rw [read_cons next, @read_cons (state.naming names) _ _ _ next]
    -- A step that takes a name ends the reading, and every other one goes on behind the names.
    rcases state.step_naming names c rest with same | taken
    · rw [same]
      cases first : state.step c rest with
      | error error => exact Or.inl rfl
      | ok pair => exact ih pair.1 pair.2 first
    · rw [taken]
      exact Or.inr rfl

variable {names : List (List Char)} {state next last : ReadState} {groups : List Level} {c : Char}
  {front after tail text : List Char}

/-- A step that is made before the end of a group is made without it, too, if that end is read later. -/
theorem step_before (line : '\n' ∉ tail)
    (stepped : state.step c (front ++ ')' :: tail) = .ok (next, after ++ ')' :: tail))
    (later : (next.under groups).read (after ++ ')' :: tail) = .ok last) : state.step c front = .ok (next, after) := by
  cases outcome : state.step c front with
  | ok pair =>
    obtain ⟨next', after'⟩ := pair
    -- Either the step has read its part, or a comment has read everything.
    rcases (step_steady state c front).onward outcome with go | ⟨rfl, swallowed⟩
    · have both := Except.ok.inj (stepped.symm.trans (go _ ⟨tail, rfl, line⟩))
      rw [(Prod.mk.inj both).1, List.append_cancel_right (Prod.mk.inj both).2]
    · have both := Except.ok.inj (stepped.symm.trans (swallowed _ ⟨tail, rfl, line⟩))
      exact absurd (Prod.mk.inj both).2 (by simp)
  | error error =>
    exfalso
    rcases (step_steady state c front).astray outcome line stepped with behind | ⟨rest, same, first⟩
    · -- The parenthesis has not been read yet.
      have short := behind.length_le
      rw [List.length_append, List.length_cons] at short
      omega
    · -- Only an opening brace in front of the parenthesis would fail later.
      rw [same, read_cons (skipBlank_brace _ rest)] at later
      obtain ⟨pair, now, _⟩ := bind_eq_ok later
      exact @step_brace (next.under groups) _ first pair now

/-- A step that is made with groups around is made without them, unless it closes one of them. -/
theorem step_of_under {rest : List Char} {outcome : ReadState × List Char} (inside : c = ')' → state.outer ≠ [])
    (made : (state.under groups).step c rest = .ok outcome) :
    ∃ next after, state.step c rest = .ok (next, after) ∧ outcome = (next.under groups, after) := by
  rw [step_under state groups rest inside] at made
  cases first : state.step c rest with
  | error error => simp [first, Except.map] at made
  | ok pair =>
    rw [first] at made
    exact ⟨pair.1, pair.2, rfl, (Except.ok.inj made).symm⟩

/-- If not all groups around are left at the end of a text, what stands before some parenthesis is read to its end. -/
theorem exists_front (line : '\n' ∉ text) (done : (state.under groups).read text = .ok last)
    (left : ∀ before : ReadState, last ≠ before.under groups) :
    ∃ front tail before, text = front ++ ')' :: tail ∧ state.read front = .ok before ∧ before.outer = [] := by
  induction state, text using induction_read with
  | ended state text found =>
    have ended : (state.under groups).read text = .ok (state.under groups) := read_nil found
    exact absurd (Except.ok.inj (done.symm.trans ended)) (left state)
  | stepped state text c rest found ih =>
    obtain ⟨blanks, rfl⟩ := found ▸ skipBlank_suffix state.level.flags.extended text
    have lineRest : '\n' ∉ rest := fun member => line (by simp [member])
    by_cases close : c = ')' ∧ state.outer = []
    · -- This is the parenthesis.
      obtain ⟨rfl, complete⟩ := close
      have none : skipBlank state.level.flags.extended blanks = [] := skipBlank_before lineRest found
      exact ⟨blanks, rest, state, rfl, read_nil none, complete⟩
    · -- Any other step is made without the groups around, too, and the parenthesis comes after it.
      rw [@read_cons (state.under groups) _ _ _ found] at done
      obtain ⟨_, now, later⟩ := bind_eq_ok done
      obtain ⟨next, after, made, rfl⟩ := step_of_under (fun same outermost => close ⟨same, outermost⟩) now
      obtain ⟨read, rfl⟩ := (step_steady state c rest).suffix made
      obtain ⟨front, tail, before, rfl, alone, complete⟩ :=
        ih next after made (fun member => lineRest (by simp [member])) later
      have lineTail : '\n' ∉ tail := fun member => lineRest (by simp [member])
      have made' : state.step c (read ++ front) = .ok (next, front) :=
        step_before lineTail (by rw [List.append_assoc]; exact made) later
      have found' : skipBlank state.level.flags.extended (blanks ++ c :: (read ++ front)) = c :: (read ++ front) :=
        skipBlank_before lineTail (by simpa using found)
      refine ⟨blanks ++ c :: (read ++ front), tail, before, by simp, ?_, complete⟩
      rw [read_cons found', made']
      exact alone

/-- If a group is closed somewhere in a text, what stands before the parenthesis is read alone to its end, and just so
before whatever comes after it. -/
theorem exists_close (line : '\n' ∉ text) (done : (state.under groups).read text = .ok last)
    (fewer : last.outer.length < groups.length) :
    ∃ front tail before, text = front ++ ')' :: tail ∧ state.read front = .ok before ∧ before.outer = [] ∧
      ∀ groups more, Closing more → (state.under groups).read (front ++ more) = (before.under groups).read more := by
  -- The groups around are all still there if the parenthesis is not read.
  have left : ∀ before : ReadState, last ≠ before.under groups := by
    rintro before rfl
    rw [under, List.length_append] at fewer
    omega
  obtain ⟨front, tail, before, rfl, read, complete⟩ := exists_front line done left
  refine ⟨front, tail, before, rfl, read, complete, ?_⟩
  -- A comment at the end would have read the parenthesis.
  rcases read_onward read with go | swallowed
  · exact go
  · have lineTail : '\n' ∉ tail := fun member => line (by simp [member])
    exact absurd (Except.ok.inj (done.symm.trans (swallowed groups _ ⟨tail, rfl, lineTail⟩))) (left before)

end ReadState

/-- A closing bracket that closes no class stands for itself. -/
theorem read_bracket {state last : ReadState} {text : List Char} (plain : state.level.flags = {})
    (done : state.read (']' :: text) = .ok last) :
    ∃ piece, (state.setLevel (state.level.add piece)).read text = .ok last := by
  have first : skipBlank state.level.flags.extended (']' :: text) = ']' :: text := by rw [plain]; rfl
  rw [ReadState.read_cons first, ReadState.step_piece state (by decide)] at done
  obtain ⟨_, now, later⟩ := bind_eq_ok done
  obtain ⟨⟨piece, after⟩, read, added⟩ := bind_eq_ok now
  -- The bracket is read as a part by itself.
  rw [readPiece_single _ (by decide) (by decide)] at read
  obtain ⟨_, rfl⟩ := map_eq_ok read
  cases added
  exact ⟨piece, later⟩

/-- An expression by itself does not close a group, whatever names there are before it. -/
theorem not_closes {names : List (List Char)} {front back : List Char} {before : ReadState}
    (valid : IsExpression (front ++ ')' :: back)) (line : '\n' ∉ back)
    (read : (ReadState.inGroup names).read front = .ok before) (complete : before.outer = [])
    (go : ∀ groups more, Closing more →
      ((ReadState.inGroup names).under groups).read (front ++ more) = (before.under groups).read more) : False := by
  obtain ⟨regex, valid⟩ := valid
  -- The group is read like the expression alone, which remembers nothing and has no names before it.
  have alike (text : List Char) : (ReadState.inGroup names).read text =
      ((ReadState.initial.read text).map ReadState.remembering).map (ReadState.naming names) ∨
        (ReadState.inGroup names).read text = .error .duplicateName := by
    rw [← ReadState.read_remembering]
    exact (ReadState.inGroup []).read_naming names text
  -- So the expression alone has closed all of its groups in front of the parenthesis as well.
  obtain ⟨alone, reached, outermost⟩ : ∃ alone, ReadState.initial.read front = .ok alone ∧ alone.outer = [] := by
    rcases alike front with same | taken
    · cases outcome : ReadState.initial.read front with
      | error error => simp [read, outcome, Except.map] at same
      | ok alone =>
        obtain ⟨_, _, outer⟩ := alone
        rw [read, outcome] at same
        cases Except.ok.inj same
        cases outer with
        | nil => exact ⟨_, rfl, rfl⟩
        | cons above outer => cases outer <;> cases complete
    · cases read.symm.trans taken
  -- In the group the parenthesis closes more than has been opened.
  have refused : (ReadState.inGroup names).read (front ++ [')']) = .error .unopenedGroup := by
    have closes := go [] _ closing_parenthesis
    rwa [ReadState.under_nil, ReadState.under_nil, ReadState.read_close complete] at closes
  rcases ReadState.read_onward reached with go' | swallowed
  · -- Alone the parenthesis has nothing to close.
    have closes := go' [] _ ⟨back, rfl, line⟩
    rw [ReadState.under_nil, ReadState.under_nil, ReadState.read_close outermost] at closes
    rw [ofText_eq] at valid
    cases (congrArg (· >>= ReadState.finish) closes).symm.trans valid
  · -- No comment goes on there, as none does in the group.
    have open' := swallowed [] _ closing_parenthesis
    rw [ReadState.under_nil, ReadState.under_nil] at open'
    rcases alike (front ++ [')']) with same | taken
    · rw [refused, open'] at same
      cases same
    · cases refused.symm.trans taken

/-- If an expression in parentheses, a bracket and a parenthesis come before a text between anchors, the text is read to
its end in a group of its own, and that group is closed in it or behind it. -/
theorem read_second {first text : List Char} {regex : Regex} (valid : IsExpression first)
    (line : '\n' ∉ text) (unmarked : text.head? ≠ some '?')
    (compiles : ofText (anchoredText ('(' :: (first ++ ')' :: ']' :: '(' :: text))) = .ok regex) :
    ∃ names above last, ((ReadState.inGroup names).under [above, anchorLevel]).read (text ++ [')', '$']) = .ok last ∧
      last.finish = .ok regex := by
  obtain ⟨_, valid⟩ := valid
  have start := head?_ne_of_valid valid
  rw [ofText_eq] at valid
  obtain ⟨⟨names, level, outer⟩, reached, done⟩ := bind_eq_ok valid
  obtain rfl : outer = [] := (finish_ok done).1
  rw [ofText_anchoredText] at compiles
  obtain ⟨last, passed, finished⟩ := bind_eq_ok compiles
  have closing : Closing (')' :: ']' :: '(' :: (text ++ [')', '$'])) := ⟨_, rfl, by simp [line]⟩
  -- What follows the first parenthesis is no mark.
  have inside : (first ++ ')' :: ']' :: '(' :: (text ++ [')', '$'])).head? ≠ some '?' := by
    cases first with
    | nil => simp
    | cons c first => exact start
  -- The first expression is read in its group, and no comment swallows what comes after it.
  have opened : ((ReadState.inGroup []).under [bottomLevel, anchorLevel]).read
      (first ++ ')' :: ']' :: '(' :: (text ++ [')', '$'])) = .ok last := by
    rw [← passed]
    exact (@read_open (ReadState.initial.under [anchorLevel]) rfl _ inside).symm.trans (by simp)
  have go := (ReadState.read_onward (read_remembered reached)).resolve_right fun swallowed => by
    have same := Except.ok.inj ((swallowed [bottomLevel, anchorLevel] _ closing).symm.trans opened)
    rw [← same, ReadState.finish_open (by simp [ReadState.under])] at finished
    cases finished
  have behind := (go [bottomLevel, anchorLevel] _ closing).symm.trans opened
  -- Then the group is closed, and the next one is opened behind the bracket.
  rw [ReadState.read_cons (closing.skipBlank _)] at behind
  have behind : (ReadState.mk names (bottomLevel.add level.remembering.closed) [anchorLevel]).read
      (']' :: '(' :: (text ++ [')', '$'])) = .ok last := behind
  obtain ⟨piece, behind⟩ := read_bracket rfl behind
  have next : (text ++ [')', '$']).head? ≠ some '?' := by
    cases text with
    | nil => simp
    | cons c text => exact unmarked
  rw [read_open rfl next] at behind
  exact ⟨_, _, last, behind, finished⟩

/-- If a bracket splits the second of two expressions, what stands before it is none between anchors. -/
theorem not_compiles_across {first front back : List Char} (valid : IsExpression first)
    (valid' : IsExpression (front ++ ']' :: back)) (line : '\n' ∉ front ++ ']' :: back) (regex : Regex) :
    ofText (anchoredText ('(' :: (first ++ ')' :: ']' :: '(' :: front))) ≠ .ok regex := by
  intro compiles
  have lineFront : '\n' ∉ front := fun member => line (List.mem_append_left _ member)
  -- The second expression is valid, so it does not start with a mark.
  have unmarked : front.head? ≠ some '?' := by
    obtain ⟨_, valid'⟩ := valid'
    cases front with
    | nil => simp
    | cons c front =>
      have other := head?_ne_of_valid valid'
      exact other
  obtain ⟨names, above, last, passed, finished⟩ := read_second valid lineFront unmarked compiles
  have closed : last.outer = [] := (finish_ok finished).1
  -- The group is closed somewhere, as nothing is left open in the end.
  obtain ⟨before, tail, state, split, read, complete, go⟩ :=
    ReadState.exists_close (by simp [lineFront]) passed (by simp [closed])
  -- The parenthesis that closes the group is the first one behind the text, or it stands in the text.
  have place : before = front ∨ ∃ rest, front = before ++ ')' :: rest := by
    rcases List.append_eq_append_iff.mp split with ⟨more, rfl, rest⟩ | ⟨more, rfl, rest⟩
    · rcases more with _ | ⟨c, _ | ⟨d, more⟩⟩ <;> simp at rest ⊢
    · cases more with
      | nil => simp
      | cons c more => exact Or.inr ⟨more, by rw [(List.cons.inj rest).1]⟩
  rcases place with rfl | ⟨rest, rfl⟩
  · -- Then nothing closes the group between the anchors.
    have left := (go [above, anchorLevel] _ closing_anchor).symm.trans passed
    have inside : (state.under [above]).outer ≠ [] := by simp [ReadState.under]
    have both : state.under [above, anchorLevel] = (state.under [above]).under [anchorLevel] := by
      simp [ReadState.under]
    rw [both] at left
    exact read_anchor_open inside regex ((congrArg (· >>= ReadState.finish) left).trans finished)
  · -- Then an expression by itself would close a group that it has not opened.
    have whole : IsExpression (before ++ ')' :: (rest ++ ']' :: back)) := by simpa using valid'
    have lineBack : '\n' ∉ rest ++ ']' :: back := fun member => line (by
      rw [List.append_assoc, List.cons_append]
      exact List.mem_append_right _ (List.mem_cons_of_mem _ member))
    exact not_closes whole lineBack read complete go

end ModuleScope.Regex
