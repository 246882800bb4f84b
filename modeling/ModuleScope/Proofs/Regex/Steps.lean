import ModuleScope.Proofs.Regex.Reading
import ModuleScope.Proofs.Regex.Search

/-! An expression is read in steps that leave the groups around it alone and keep the bounds of repetitions in
order. -/

namespace ModuleScope.Regex

/-- What is known of an expression while it is being read. -/
structure ReadState where
  /-- The names of groups. -/
  names : List (List Char)
  /-- The current group. -/
  level : Level
  /-- The groups around it. -/
  outer : List Level

namespace ReadState

/-- The state with another current group. -/
def setLevel (state : ReadState) (level : Level) : ReadState := { state with level }

/-- The state after an opening parenthesis and what follows it. -/
def opened (state : ReadState) (opening : Opening) : Except SyntaxError ReadState :=
  -- Settings hold for the rest of the current group.
  match opening with
  | .settings flags => .ok (state.setLevel { state.level.add ⟨.empty, 0, true⟩ with flags })
  | .group flags captures name =>
    if name.any state.names.contains then .error .duplicateName
    else .ok ⟨name.toList ++ state.names, { flags, captures }, state.level :: state.outer⟩

/-- The state after a closing parenthesis. -/
def closed (state : ReadState) : Except SyntaxError ReadState :=
  -- The group becomes a part of the one around it.
  match state.outer with
  | [] => .error .unopenedGroup
  | above :: outer => .ok ⟨state.names, above.add state.level.closed, outer⟩

/-- The state after a repetition of the last part. -/
def repeated (state : ReadState) (low : Nat) (high : Option Nat) : Except SyntaxError ReadState :=
  (state.level.repeatLast low high).map state.setLevel

/-- Reads once from an expression, blanks having been dropped. -/
def step (state : ReadState) (c : Char) (rest : List Char) : Except SyntaxError (ReadState × List Char) :=
  -- What is read comes first and what it does to the state next, so that each can be looked at alone.
  match c with
  | '(' => readOpening state.level.flags rest >>= fun pair =>
      (state.opened pair.1).map fun state => (state, pair.2)
  | ')' => state.closed.map fun state => (state, rest)
  | '|' => .ok (state.setLevel state.level.split, rest)
  | '*' => (state.repeated 0 none).map fun state => (state, dropLazy rest)
  | '+' => (state.repeated 1 none).map fun state => (state, dropLazy rest)
  | '?' => (state.repeated 0 (some 1)).map fun state => (state, dropLazy rest)
  | '\x7b' =>
    ((readBounds state.level.flags.extended rest).map fun (low, high, rest) => ((low, high), rest)) >>= fun pair =>
      (state.repeated pair.1.1 pair.1.2).map fun after =>
        (after, dropLazy (skipBlank state.level.flags.extended pair.2))
  | c => readPiece state.level.flags c rest >>= fun pair =>
      (Except.ok (state.setLevel (state.level.add pair.1))).map fun state => (state, pair.2)

/-- The regular expression that has been read when the text ends. -/
def finish (state : ReadState) : Except SyntaxError Regex :=
  -- No group may be open any more.
  if !state.outer.isEmpty then .error .unclosedGroup
  else if maxDepth < state.level.content.depth then .error .tooDeep
  else .ok state.level.content.regex

/-- Reads up to the end of an expression. -/
def run : Nat → ReadState → List Char → Except SyntaxError ReadState
  | 0, _, _ => .error .unclosedGroup
  | fuel + 1, state, text =>
    match skipBlank state.level.flags.extended text with
    | [] => .ok state
    | c :: rest => state.step c rest >>= fun pair => run fuel pair.1 pair.2

/-- A character that is no sign starts a part. -/
theorem step_piece (state : ReadState) {c : Char} (plain : c ∉ roundSigns) (rest : List Char) :
    state.step c rest = readPiece state.level.flags c rest >>= fun pair =>
      (Except.ok (state.setLevel (state.level.add pair.1))).map fun state => (state, pair.2) := by
  simp only [roundSigns, List.mem_cons, List.not_mem_nil, or_false, not_or] at plain
  simp [step, plain]

end ReadState

/-- An expression is read step by step, and then it is complete or not. -/
theorem readFrom_eq (fuel : Nat) (state : ReadState) (text : List Char) :
    readFrom fuel state.names state.level state.outer text = state.run fuel text >>= ReadState.finish := by
  induction fuel generalizing state text with
  | zero => rfl
  | succ fuel ih =>
    -- After a step the rest is read from a new state, which the hypothesis covers.
    have later : ∀ names level outer text, readFrom fuel names level outer text =
      (ReadState.mk names level outer).run fuel text >>= ReadState.finish := fun _ _ _ => ih ⟨_, _, _⟩
    rw [readFrom, ReadState.run]
    generalize skipBlank state.level.flags.extended text = text
    simp only [later]
    split
    · rfl
    · rename_i rest
      simp only [ReadState.step]
      -- What opens is read first, and then a group is opened or the settings change.
      cases readOpening state.level.flags rest with
      | error error => rfl
      | ok pair =>
        obtain ⟨opening, after⟩ := pair
        cases opening with
        | settings flags => rfl
        | group flags captures name =>
          simp only [Bind.bind, Except.bind, ReadState.opened]
          split <;> rfl
    · simp only [ReadState.step, ReadState.closed]
      cases state.outer <;> rfl
    · rfl
    · simp only [ReadState.step, ReadState.repeated]
      cases state.level.repeatLast 0 none <;> rfl
    · simp only [ReadState.step, ReadState.repeated]
      cases state.level.repeatLast 1 none <;> rfl
    · simp only [ReadState.step, ReadState.repeated]
      cases state.level.repeatLast 0 (some 1) <;> rfl
    · rename_i rest
      simp only [ReadState.step, ReadState.repeated]
      -- Bounds in braces are read before the part is repeated.
      cases readBounds state.level.flags.extended rest with
      | error error => rfl
      | ok triple =>
        obtain ⟨low, high, after⟩ := triple
        simp only [Bind.bind, Except.bind, Except.map]
        cases state.level.repeatLast low high <;> rfl
    · -- None of the signs is there, so a part comes next.
      rename_i c rest opens closes splits star plus mark brace
      have plain : c ∉ roundSigns := by
        intro member
        simp only [roundSigns, List.mem_cons, List.not_mem_nil, or_false] at member
        rcases member with rfl | rfl | rfl | rfl | rfl | rfl | rfl
        · exact opens rfl
        · exact closes rfl
        · exact splits rfl
        · exact star rfl
        · exact plus rfl
        · exact mark rfl
        · exact brace rfl
      simp only [state.step_piece plain rest]
      cases readPiece state.level.flags c rest <;> rfl

namespace ReadState

/-- The state inside more groups. -/
def under (state : ReadState) (groups : List Level) : ReadState := { state with outer := state.outer ++ groups }

/-- No groups around make no difference. -/
theorem under_nil (state : ReadState) : state.under [] = state := by simp [under]

/-- The groups around an opened group make no difference to it. -/
theorem opened_under (state : ReadState) (groups : List Level) (opening : Opening) :
    (state.under groups).opened opening = (state.opened opening).map fun next => next.under groups := by
  cases opening with
  | settings flags => rfl
  | group flags captures name =>
    -- Whether the name is taken has nothing to do with the groups around.
    simp only [opened, under]
    by_cases taken : name.any state.names.contains = true <;> simp only [taken] <;> rfl

/-- A group that is closed inside other groups leaves these alone. -/
theorem closed_under (state : ReadState) (groups : List Level) (inside : state.outer ≠ []) :
    (state.under groups).closed = state.closed.map fun next => next.under groups := by
  obtain ⟨above, outer, same⟩ := List.exists_cons_of_ne_nil inside
  -- The group around the current one is among the groups of the state itself.
  simp only [closed, under, same, List.cons_append]
  rfl

/-- The groups around a repetition make no difference to it. -/
theorem repeated_under (state : ReadState) (groups : List Level) (low : Nat) (high : Option Nat) :
    (state.under groups).repeated low high = (state.repeated low high).map fun next => next.under groups := by
  simp only [repeated, under]
  cases state.level.repeatLast low high <;> rfl

/-- A change of the state that the parts of a step keep is kept by the step. -/
theorem step_map (state : ReadState) (change : ReadState → ReadState) {c : Char} (rest : List Char)
    (flags : (change state).level.flags = state.level.flags)
    (opened : c = '(' → ∀ opening, (change state).opened opening = (state.opened opening).map change)
    (closed : c = ')' → (change state).closed = state.closed.map change)
    (repeated : ∀ low high, (change state).repeated low high = (state.repeated low high).map change)
    (split : (change state).setLevel (change state).level.split = change (state.setLevel state.level.split))
    (added : ∀ piece, (change state).setLevel ((change state).level.add piece) =
      change (state.setLevel (state.level.add piece))) :
    (change state).step c rest = (state.step c rest).map fun pair => (change pair.1, pair.2) := by
  -- It does not matter whether the state is changed before or after the text is put beside it.
  have moved : ∀ outcome : Except SyntaxError ReadState, ∀ rest : List Char,
      ((outcome.map change).map fun next => (next, rest)) =
        (outcome.map fun next => (next, rest)).map fun pair => (change pair.1, pair.2) := by
    intro outcome _
    cases outcome <;> rfl
  by_cases sign : c ∈ roundSigns
  · simp only [roundSigns, List.mem_cons, List.not_mem_nil, or_false] at sign
    -- One of the signs does each of the things that are kept.
    rcases sign with rfl | rfl | rfl | rfl | rfl | rfl | rfl
    · simp only [step, flags]
      cases readOpening state.level.flags rest with
      | error error => rfl
      | ok pair =>
        show ((change state).opened pair.1).map _ = ((state.opened pair.1).map _).map _
        rw [opened rfl, moved]
    · simp only [step]
      rw [closed rfl, moved]
    · simp only [step]
      rw [split]
      rfl
    · simp only [step]
      rw [repeated, moved]
    · simp only [step]
      rw [repeated, moved]
    · simp only [step]
      rw [repeated, moved]
    · simp only [step, flags]
      cases readBounds state.level.flags.extended rest with
      | error error => rfl
      | ok triple =>
        show ((change state).repeated triple.1 triple.2.1).map _ =
          ((state.repeated triple.1 triple.2.1).map _).map _
        rw [repeated, moved]
  · rw [step_piece _ sign, step_piece _ sign, flags]
    -- A part is read with the same flags and added.
    cases readPiece state.level.flags c rest with
    | error error => rfl
    | ok pair =>
      show Except.ok ((change state).setLevel ((change state).level.add pair.1), pair.2) = _
      rw [added]
      rfl

/-- A step that does not leave the outermost group is the same inside other groups. -/
theorem step_under (state : ReadState) (groups : List Level) {c : Char} (rest : List Char)
    (inside : c = ')' → state.outer ≠ []) :
    (state.under groups).step c rest = (state.step c rest).map fun pair => (pair.1.under groups, pair.2) :=
  step_map state (fun next => next.under groups) rest rfl (fun _ => opened_under state groups)
    (fun close => closed_under state groups (inside close)) (repeated_under state groups) rfl fun _ => rfl

/-- Where a group is open nothing has been read to its end. -/
theorem finish_open {state : ReadState} (inside : state.outer ≠ []) : state.finish = .error .unclosedGroup := by
  simp [finish, inside]

/-- A closing parenthesis has to have a group to close. -/
theorem step_close {state : ReadState} (outermost : state.outer = []) (rest : List Char) :
    state.step ')' rest = .error .unopenedGroup := by
  simp [step, closed, outermost, Except.map]

end ReadState

/-- What is put together of regexes of a kind is of that kind. -/
structure Composes (Holds : Regex → Prop) : Prop where
  /-- Nothing at all. -/
  empty : Holds .empty
  /-- One after the other. -/
  seq : ∀ {first second : Regex}, Holds first → Holds second → Holds (.seq first second)
  /-- Either one. -/
  alt : ∀ {left right : Regex}, Holds left → Holds right → Holds (.alt left right)
  /-- A repetition with its bounds in order. -/
  rep : ∀ {body : Regex} {low : Nat} {high : Option Nat}, Holds body →
    (∀ most, high = some most → low ≤ most) → Holds (.rep body low high)
  /-- A group. -/
  capture : ∀ {body : Regex}, Holds body → Holds (.capture body)

/-- Repetitions whose bounds are in order are a kind. -/
theorem composes_ordered : Composes Ordered :=
  ⟨trivial, And.intro, And.intro, And.intro, id⟩

/-- Parts that are joined are of a kind if each of them is and the way of joining keeps it. -/
theorem joinPieces_holds {Holds : Regex → Prop} (composes : Composes Holds) (join : Regex → Regex → Regex)
    (keeps : ∀ {left right : Regex}, Holds left → Holds right → Holds (join left right)) {pieces : List Piece}
    (each : ∀ piece ∈ pieces, Holds piece.regex) : Holds (Level.joinPieces join pieces).regex := by
  -- The parts are joined from the last one on, so what has been joined stands behind.
  have folded : ∀ (rest : List Piece) (after : Regex), Holds after → (∀ piece ∈ rest, Holds piece.regex) →
      Holds (rest.foldl (fun after piece => join piece.regex after) after) := by
    intro rest
    induction rest with
    | nil => exact fun _ holds _ => holds
    | cons piece rest ih =>
      intro after holds each
      have now := keeps (each piece List.mem_cons_self) holds
      exact ih _ now fun other member => each other (List.mem_cons_of_mem piece member)
  match pieces with
  | [] => exact composes.empty
  -- Without parts there is the empty regex, and a single part is not joined with anything.
  | [piece] => exact each piece List.mem_cons_self
  | last :: second :: rest =>
    exact folded (second :: rest) last.regex (each last List.mem_cons_self) fun other member =>
      each other (List.mem_cons_of_mem last member)

/-- All parts of a group that is being read are of a kind. -/
def Level.Each (Holds : Regex → Prop) (level : Level) : Prop :=
  ∀ piece ∈ level.items ++ level.branches, Holds piece.regex

namespace Level

variable {level : Level} {Holds : Regex → Prop}

/-- A repetition takes the place of the part that is repeated. -/
theorem repeatLast_eq {low : Nat} {high : Option Nat} {next : Level}
    (done : level.repeatLast low high = .ok next) :
    ∃ piece rest, level.items = piece :: rest ∧
      next = { level with items := ⟨.rep piece.regex low high, piece.depth + 1, false⟩ :: rest } := by
  unfold repeatLast at done
  split at done
  · cases done
  · -- There is a part to repeat, and it may be repeated.
    rename_i piece rest same
    split at done
    · cases done
    · exact ⟨piece, rest, same, (Except.ok.inj done).symm⟩

/-- A part of the kind may be added. -/
theorem Each.add (each : level.Each Holds) {piece : Piece} (part : Holds piece.regex) :
    (level.add piece).Each Holds := by
  intro other member
  rcases List.mem_cons.mp member with rfl | member
  · exact part
  · exact each other member

/-- The current branch is of the kind. -/
theorem Each.branch (each : level.Each Holds) (composes : Composes Holds) : Holds level.branch.regex :=
  joinPieces_holds composes .seq composes.seq fun piece member => each piece (List.mem_append_left _ member)

/-- A branch may be ended. -/
theorem Each.split (each : level.Each Holds) (composes : Composes Holds) : level.split.Each Holds := by
  intro piece member
  rcases List.mem_cons.mp member with rfl | member
  · exact each.branch composes
  · exact each piece (List.mem_append_right _ member)

/-- All branches together are of the kind. -/
theorem Each.content (each : level.Each Holds) (composes : Composes Holds) : Holds level.content.regex := by
  -- The current branch is the last of them.
  refine joinPieces_holds composes .alt composes.alt fun piece member => ?_
  rcases List.mem_cons.mp member with rfl | member
  · exact each.branch composes
  · exact each piece (List.mem_append_right _ member)

/-- A group that is closed is of the kind. -/
theorem Each.closed (each : level.Each Holds) (composes : Composes Holds) : Holds level.closed.regex := by
  unfold Level.closed
  -- A group may remember where it matched.
  cases level.captures with
  | false => exact each.content composes
  | true => exact composes.capture (each.content composes)

/-- The last part may be repeated if the bounds are in order. -/
theorem Each.repeatLast (each : level.Each Holds) (composes : Composes Holds) {low : Nat} {high : Option Nat}
    {next : Level} (bounds : ∀ most, high = some most → low ≤ most)
    (done : level.repeatLast low high = .ok next) : next.Each Holds := by
  -- The part that is repeated was there before, and the other parts are as they were.
  obtain ⟨piece, rest, same, rfl⟩ := repeatLast_eq done
  have parts : ∀ other ∈ piece :: (rest ++ level.branches), Holds other.regex := by
    rw [← List.cons_append, ← same]
    exact each
  intro other member
  rcases List.mem_cons.mp member with rfl | member
  · exact composes.rep (parts piece List.mem_cons_self) bounds
  · exact parts other (List.mem_cons_of_mem piece member)

end Level

/-- A part that is read alone repeats nothing. -/
theorem readPiece_ordered {flags : Flags} {c : Char} {rest after : List Char} {piece : Piece}
    (done : readPiece flags c rest = .ok (piece, after)) : piece.regex.Ordered := by
  -- It is a class, a character, a condition or a dot.
  unfold readPiece at done
  split at done
  · obtain ⟨part, _, last⟩ := bind_eq_ok done
    cases last
    trivial
  · obtain ⟨atom, _, last⟩ := bind_eq_ok done
    split at last
    · obtain ⟨set, _, last⟩ := bind_eq_ok last
      cases last
      trivial
    · cases last
      trivial
    · cases last
      trivial
  · obtain ⟨set, _, last⟩ := bind_eq_ok done
    cases last
    trivial
  · cases done
    trivial
  · cases done
    trivial
  · obtain ⟨set, _, last⟩ := bind_eq_ok done
    cases last
    trivial

/-- The bounds of a repetition are read only if they are in order. -/
theorem readBounds_ordered {extended : Bool} {text rest : List Char} {low : Nat} {high : Option Nat}
    (done : readBounds extended text = .ok (low, high, rest)) : ∀ most, high = some most → low ≤ most := by
  unfold readBounds at done
  obtain ⟨⟨lower, after⟩, _, bounded⟩ := bind_eq_ok done
  simp only at bounded
  split at bounded
  · -- A single number is both bounds.
    cases bounded
    intro most same
    exact Nat.le_of_eq (Option.some.inj same)
  · split at bounded
    · -- There is no upper bound.
      cases bounded
      intro most same
      cases same
    · obtain ⟨⟨upper, _⟩, _, closed⟩ := bind_eq_ok bounded
      simp only at closed
      split at closed
      · split at closed
        · -- The two numbers have been compared.
          rename_i inOrder
          cases closed
          intro most same
          exact Option.some.inj same ▸ inOrder
        · cases closed
      · cases closed
  · cases bounded

/-- The bounds and what follows them may be put in pairs. -/
theorem readBounds_of_pair {extended : Bool} {rest after : List Char} {low : Nat} {high : Option Nat}
    (read : ((readBounds extended rest).map fun (low, high, rest) => ((low, high), rest)) =
      .ok ((low, high), after)) : readBounds extended rest = .ok (low, high, after) := by
  cases outcome : readBounds extended rest with
  | error error =>
    -- Nothing is lost when the outcome is put in another form.
    rw [outcome] at read
    cases read
  | ok triple =>
    rw [outcome] at read
    cases read
    rfl

/-- What one step makes of a state, given what comes next in the text. -/
inductive Stepped (state : ReadState) (c : Char) (rest : List Char) : ReadState → Prop
  /-- The settings have changed. -/
  | settings (flags : Flags) :
    Stepped state c rest (state.setLevel { state.level.add ⟨.empty, 0, true⟩ with flags })
  /-- A group has been opened. -/
  | opened (names : List (List Char)) (flags : Flags) (captures : Bool) :
    Stepped state c rest ⟨names, { flags, captures }, state.level :: state.outer⟩
  /-- The current group has been closed. -/
  | closed {above : Level} {outer : List Level} (close : c = ')') (around : state.outer = above :: outer) :
    Stepped state c rest ⟨state.names, above.add state.level.closed, outer⟩
  /-- A branch has been ended. -/
  | split : Stepped state c rest (state.setLevel state.level.split)
  /-- The last part has been repeated. -/
  | repeated {low : Nat} {high : Option Nat} {level : Level} (bounds : ∀ most, high = some most → low ≤ most)
    (again : state.level.repeatLast low high = .ok level) : Stepped state c rest (state.setLevel level)
  /-- A part has been added that is read alone. -/
  | added {piece : Piece} {after : List Char} (plain : c ∉ roundSigns)
    (read : readPiece state.level.flags c rest = .ok (piece, after)) :
    Stepped state c rest (state.setLevel (state.level.add piece))

namespace ReadState

variable {state next : ReadState} {c : Char} {rest after : List Char}

/-- What follows an opening parenthesis opens a group or changes the settings. -/
theorem opened_cases {opening : Opening} (done : state.opened opening = .ok next) : Stepped state '(' rest next := by
  cases opening with
  | settings flags =>
    cases done
    exact .settings flags
  | group flags captures name =>
    -- A group is opened if its name is free.
    simp only [opened] at done
    split at done
    · cases done
    · cases done
      exact .opened _ flags captures

/-- A closing parenthesis closes the current group. -/
theorem closed_cases (done : state.closed = .ok next) : Stepped state ')' rest next := by
  unfold closed at done
  split at done
  · cases done
  · -- There is a group around the current one.
    rename_i above outer around
    cases done
    exact .closed rfl around

/-- A repetition repeats the last part. -/
theorem repeated_cases {low : Nat} {high : Option Nat} (bounds : ∀ most, high = some most → low ≤ most)
    (done : state.repeated low high = .ok next) : Stepped state c rest next := by
  unfold repeated at done
  -- There has to be a part that can be repeated.
  cases outcome : state.level.repeatLast low high with
  | error error =>
    rw [outcome] at done
    cases done
  | ok level =>
    rw [outcome] at done
    cases done
    exact .repeated bounds outcome

/-- Each step does one of a few things. -/
theorem step_cases (done : state.step c rest = .ok (next, after)) : Stepped state c rest next := by
  by_cases sign : c ∈ roundSigns
  · simp only [roundSigns, List.mem_cons, List.not_mem_nil, or_false] at sign
    -- Each sign does one of these things.
    rcases sign with rfl | rfl | rfl | rfl | rfl | rfl | rfl
    · obtain ⟨pair, _, last⟩ := bind_eq_ok done
      exact opened_cases (map_eq_ok last).1
    · exact closed_cases (map_eq_ok done).1
    · cases done
      exact .split
    · exact repeated_cases (by simp) (map_eq_ok done).1
    · exact repeated_cases (by simp) (map_eq_ok done).1
    · exact repeated_cases (by simp) (map_eq_ok done).1
    · -- Only bounds in braces could be out of order, and those are checked when they are read.
      obtain ⟨⟨⟨low, high⟩, rest'⟩, read, last⟩ := bind_eq_ok done
      exact repeated_cases (readBounds_ordered (readBounds_of_pair read)) (map_eq_ok last).1
  · rw [step_piece _ sign] at done
    obtain ⟨⟨piece, _⟩, read, last⟩ := bind_eq_ok done
    cases last
    exact .added sign read

/-- Only a closing parenthesis leaves a group. -/
theorem step_outer (done : state.step c rest = .ok (next, after)) (stays : c ≠ ')') (inside : state.outer ≠ []) :
    next.outer ≠ [] := by
  cases step_cases done with
  -- A step opens a group, closes one or leaves the groups as they are.
  | opened names flags captures => exact List.cons_ne_nil _ _
  | closed close around => exact absurd close stays
  | settings | split | repeated | added => exact inside

/-- Whether the outermost group remembers where it matched. -/
def bottom (state : ReadState) : Option Bool := ((state.level :: state.outer).map Level.captures).getLast?

/-- The outermost group stays what it is. -/
theorem step_bottom (done : state.step c rest = .ok (next, after)) : next.bottom = state.bottom := by
  -- Groups come and go on top of the outermost one.
  cases step_cases done with
  | settings | split | added => rfl
  | opened names flags captures => exact List.getLast?_cons_cons
  | closed close around =>
    simp only [bottom, around, List.map_cons, List.getLast?_cons_cons]
    rfl
  | repeated bounds again =>
    obtain ⟨piece, rest, _, rfl⟩ := Level.repeatLast_eq again
    rfl

end ReadState

/-- Reading leaves texts of a kind behind when it starts from one. -/
structure Stays (Guard : List Char → Prop) : Prop where
  /-- Blanks and comments are dropped. -/
  blank : ∀ {extended : Bool} {text : List Char}, Guard text → Guard (skipBlank extended text)
  /-- A step is made. -/
  onward : ∀ {state next : ReadState} {c : Char} {rest after : List Char}, Guard (c :: rest) →
    state.step c rest = .ok (next, after) → Guard after

/-- Nothing has to be known of the texts. -/
theorem stays_true : Stays fun _ => True := ⟨fun _ => trivial, fun _ _ => trivial⟩

namespace ReadState

variable {state next : ReadState} {c : Char} {rest after : List Char}

/-- What every step keeps in a text of a kind is kept up to the end of the text. -/
theorem run_keeps {Guard : List Char → Prop} (stays : Stays Guard) {Holds : ReadState → Prop}
    (keeps : ∀ {state next c rest after}, Guard (c :: rest) → state.step c rest = .ok (next, after) →
      Holds state → Holds next)
    {fuel : Nat} {text : List Char} (guarded : Guard text) (done : state.run fuel text = .ok next)
    (initially : Holds state) : Holds next := by
  induction fuel generalizing state text with
  | zero => cases done
  | succ fuel ih =>
    -- What comes next is left behind by the blanks.
    have left : Guard (skipBlank state.level.flags.extended text) := stays.blank guarded
    rw [run] at done
    split at done
    · -- The text has ended, and nothing has changed since.
      cases done
      exact initially
    · rename_i same
      rw [same] at left
      -- One step is made, and what it keeps is kept by the others.
      obtain ⟨⟨state', after⟩, now, later⟩ := bind_eq_ok done
      exact ih (stays.onward left now) later (keeps left now initially)

/-- The outermost group is the same when the text ends. -/
theorem run_bottom {fuel : Nat} {text : List Char} (done : state.run fuel text = .ok next) :
    next.bottom = state.bottom :=
  run_keeps stays_true (fun _ now same => (step_bottom now).trans same) trivial done rfl

/-- All parts that have been read are of a kind. -/
def Each (Holds : Regex → Prop) (state : ReadState) : Prop :=
  state.level.Each Holds ∧ ∀ level ∈ state.outer, level.Each Holds

variable {Holds : Regex → Prop}

/-- A step keeps the kind if a part that is read alone is of it. -/
theorem Each.step (each : state.Each Holds) (composes : Composes Holds)
    (parts : ∀ piece after, c ∉ roundSigns → readPiece state.level.flags c rest = .ok (piece, after) →
      Holds piece.regex)
    (done : state.step c rest = .ok (next, after)) : next.Each Holds := by
  cases step_cases done with
  -- Settings leave an empty part behind.
  | settings flags => exact ⟨each.1.add composes.empty, each.2⟩
  | opened names flags captures =>
    -- The new group is empty, and the current one is put around it.
    refine ⟨fun piece member => by simp at member, fun level member => ?_⟩
    rcases List.mem_cons.mp member with rfl | member
    · exact each.1
    · exact each.2 level member
  | @closed above outer close around =>
    -- The closed group joins the parts of the one around it.
    have outside : ∀ level ∈ above :: outer, level.Each Holds := around ▸ each.2
    exact ⟨(outside above List.mem_cons_self).add (each.1.closed composes), fun level member =>
      outside level (List.mem_cons_of_mem above member)⟩
  | split => exact ⟨each.1.split composes, each.2⟩
  | repeated bounds again => exact ⟨each.1.repeatLast composes bounds again, each.2⟩
  | added plain read => exact ⟨each.1.add (parts _ _ plain read), each.2⟩

/-- An expression that is complete is of the kind. -/
theorem Each.finish (each : state.Each Holds) (composes : Composes Holds) {regex : Regex}
    (done : state.finish = .ok regex) : Holds regex := by
  unfold ReadState.finish at done
  split at done
  · cases done
  split at done
  · cases done
  · cases done
    -- Both checks are passed, so the content of the outermost group is the regex.
    exact each.1.content composes

end ReadState

/-- An expression is of a kind if no part is of another in a text of a kind that the reading leaves behind. -/
theorem ofText_holds {Holds : Regex → Prop} (composes : Composes Holds) {Guard : List Char → Prop}
    (stays : Stays Guard)
    (parts : ∀ {flags c rest piece after}, Guard (c :: rest) → c ∉ roundSigns →
      readPiece flags c rest = .ok (piece, after) → Holds piece.regex)
    {text : List Char} {regex : Regex} (guarded : Guard text) (done : ofText text = .ok regex) :
    Holds regex := by
  obtain ⟨last, reached, complete⟩ := bind_eq_ok
    ((readFrom_eq (text.length + 1) ⟨[], { flags := {} }, []⟩ text).symm.trans done)
  have initially : ReadState.Each Holds ⟨[], { flags := {} }, []⟩ := ⟨by simp [Level.Each], by simp⟩
  -- Nothing has been read before the first step, so all that has been read is of the kind.
  have throughout : last.Each Holds := ReadState.run_keeps stays
    (fun left now each => each.step composes (fun _ _ => parts left) now) guarded reached initially
  exact throughout.finish composes complete

/-- Every expression has the bounds of its repetitions in order. -/
theorem ofText_ordered {text : List Char} {regex : Regex} (done : ofText text = .ok regex) : regex.Ordered :=
  ofText_holds composes_ordered stays_true (fun _ _ read => readPiece_ordered read) trivial done

end ModuleScope.Regex
