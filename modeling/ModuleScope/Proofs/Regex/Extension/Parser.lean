import ModuleScope.Proofs.Regex.Extension.Bracket
import ModuleScope.Proofs.Regex.Steps

/-! A whole expression is read in the same way when the end of a group comes after it, unless that end belongs to
a comment or the expression closes groups that are not its own. -/

namespace ModuleScope.Regex

/-- The end of a group does not complete a mark that comes before it. -/
theorem isPrefixOf_append_ending {mark : List Char} (bare : ')' ∉ mark) (text : List Char) {more : List Char}
    (ending : Ending more) : mark.isPrefixOf (text ++ more) = mark.isPrefixOf text := by
  -- The mark is compared with the text sign by sign.
  induction mark generalizing text with
  | nil => rfl
  | cons sign mark ih =>
    simp only [List.mem_cons, not_or] at bare
    cases text with
    | cons c rest => simp only [List.cons_append, List.isPrefixOf, ih bare.2]
    | nil =>
      rcases ending with rfl | ⟨tail, rfl, _⟩
      · rfl
      · -- The parenthesis is none of the signs of the mark.
        have other : (sign == ')') = false := beq_eq_false_iff_ne.mpr (Ne.symm bare.1)
        simp only [List.nil_append, List.isPrefixOf, other, Bool.false_and]

/-- The end of a group does not complete the mark of a group that looks ahead or behind. -/
theorem looksAround_append (text : List Char) {more : List Char} (ending : Ending more) :
    looksAround (text ++ more) = looksAround text := by
  simp only [looksAround, List.any_cons, List.any_nil]
  rw [isPrefixOf_append_ending (by decide) text ending, isPrefixOf_append_ending (by decide) text ending,
    isPrefixOf_append_ending (by decide) text ending, isPrefixOf_append_ending (by decide) text ending]

/-- What a list of flags and the sign after it stand for. -/
def settingsOf (list : FlagList) (stop : Char) : Except SyntaxError Opening :=
  if stop = ':' then .ok (.group list.flags false none)
  else if list.seen.isEmpty then .error .missingOperand
  else .ok (.settings list.flags)

/-- Reads flags after an opening parenthesis and a question mark. -/
def readSettings (flags : Flags) (text : List Char) : Except SyntaxError (Opening × List Char) :=
  ((readFlags { flags } text).map fun (list, stop, rest) => ((list, stop), rest)) >>= fun pair =>
    (settingsOf pair.1.1 pair.1.2).map fun opening => (opening, pair.2)

/-- Reads what follows an opening parenthesis, blanks having been dropped. -/
def readMark (flags : Flags) (text : List Char) : Except SyntaxError (Opening × List Char) :=
  -- The marks are tried one after the other.
  if looksAround text then .error .lookAround
  else if ['?', 'P', '<'].isPrefixOf text then openNamed flags (text.drop 3)
  else if ['?', '<'].isPrefixOf text then openNamed flags (text.drop 2)
  else if ['?'].isPrefixOf text then readSettings flags (text.drop 1)
  else .ok (.group flags true none, text)

/-- A mark that does not make up the front of a text is not there. -/
theorem isPrefixOf_eq_false {mark text : List Char} (other : ∀ rest, text = mark ++ rest → False) :
    mark.isPrefixOf text = false := by
  rw [← Bool.not_eq_true, List.isPrefixOf_iff_prefix]
  -- What starts with the mark is the mark and a rest.
  intro starts
  obtain ⟨rest, same⟩ := starts
  exact other rest same.symm

/-- What follows an opening parenthesis is read after the blanks there. -/
theorem readOpening_eq (flags : Flags) (text : List Char) :
    readOpening flags text = readMark flags (skipBlank flags.extended text) := by
  unfold readOpening readMark
  -- The marks are looked for in the same order on both sides.
  generalize skipBlank flags.extended text = text
  dsimp only
  split
  · rfl
  split
  · rfl
  · rfl
  · -- A question mark alone is followed by flags.
    rename_i rest long short _
    have noLong : ['?', 'P', '<'].isPrefixOf ('?' :: rest) = false :=
      isPrefixOf_eq_false fun after same => long after (List.cons.inj same).2
    have noShort : ['?', '<'].isPrefixOf ('?' :: rest) = false :=
      isPrefixOf_eq_false fun after same => short after (List.cons.inj same).2
    rw [noLong, noShort]
    simp only [Bool.false_eq_true, if_false, List.isPrefixOf, beq_self_eq_true, Bool.true_and, if_true,
      List.drop_succ_cons, List.drop_zero, readSettings, settingsOf]
    cases readFlags { flags } rest with
    | error error => rfl
    | ok triple =>
      simp only [Bind.bind, Except.bind, Except.map]
      split
      · rfl
      split <;> rfl
  · -- Without a mark a plain group is opened.
    rename_i _ long short none
    have noLong : ['?', 'P', '<'].isPrefixOf text = false := isPrefixOf_eq_false long
    have noShort : ['?', '<'].isPrefixOf text = false := isPrefixOf_eq_false short
    have noMark : ['?'].isPrefixOf text = false := isPrefixOf_eq_false none
    rw [noLong, noShort, noMark]
    rfl

/-- Reading flags after a question mark is steady, but the parenthesis at the end of the group is taken for the
end of the flags if they have no other. -/
theorem readSettings_steady (flags : Flags) (text : List Char) : Steady past (readSettings flags) text :=
  (readFlags_steady { flags } text).map_past fun pair => settingsOf pair.1 pair.2

/-- Reading a group's name is steady, but the name may end behind the parenthesis at the end of the group. -/
theorem openNamed_steady (flags : Flags) (text : List Char) : Steady past (openNamed flags) text := by
  refine ((readName_steady true text).map_past fun name => .ok (Opening.group flags true (some name))).congr ?_
  intro more _
  rfl

/-- Reading the mark of a group is steady, but the parenthesis at the end of the group is taken for the end of
flags if they have no other. -/
theorem readMark_steady (flags : Flags) (text : List Char) : Steady past (readMark flags) text := by
  -- Whatever mark is there is there before the end of the group, too.
  have look : ∀ more, Ending more → looksAround (text ++ more) = looksAround text :=
    fun _ => looksAround_append text
  have marks : ∀ mark : List Char, ')' ∉ mark → ∀ more, Ending more →
      mark.isPrefixOf (text ++ more) = mark.isPrefixOf text :=
    fun _ bare _ => isPrefixOf_append_ending bare text
  -- The marks are asked for one after the other.
  by_cases around : looksAround text = true
  · refine (Steady.of_outcome (.error .lookAround)).congr fun more ending => ?_
    simp only [readMark, look more ending, around, if_true, Except.map]
  by_cases long : ['?', 'P', '<'].isPrefixOf text = true
  · obtain ⟨rest, rfl⟩ := List.isPrefixOf_iff_prefix.mp long
    refine (openNamed_steady flags rest).append ['?', 'P', '<'] fun more ending => ?_
    rw [← List.append_assoc, readMark, look more ending, if_neg around, marks _ (by decide) more ending,
      if_pos long]
    rfl
  by_cases short : ['?', '<'].isPrefixOf text = true
  · obtain ⟨rest, rfl⟩ := List.isPrefixOf_iff_prefix.mp short
    refine (openNamed_steady flags rest).append ['?', '<'] fun more ending => ?_
    rw [← List.append_assoc, readMark, look more ending, if_neg around, marks _ (by decide) more ending,
      if_neg long, marks _ (by decide) more ending, if_pos short]
    rfl
  by_cases mark : ['?'].isPrefixOf text = true
  · obtain ⟨rest, rfl⟩ := List.isPrefixOf_iff_prefix.mp mark
    refine (readSettings_steady flags rest).append ['?'] fun more ending => ?_
    rw [← List.append_assoc, readMark, look more ending, if_neg around, marks _ (by decide) more ending,
      if_neg long, marks _ (by decide) more ending, if_neg short, marks _ (by decide) more ending, if_pos mark]
    rfl
  · refine (Steady.of_outcome (.ok (.group flags true none))).congr fun more ending => ?_
    rw [readMark, look more ending, if_neg around, marks _ (by decide) more ending, if_neg long,
      marks _ (by decide) more ending, if_neg short, marks _ (by decide) more ending, if_neg mark]
    rfl

/-- Reading what follows an opening parenthesis is steady, but the parenthesis at the end of the group is taken
for the end of flags if they have no other. -/
theorem readOpening_steady (flags : Flags) (text : List Char) : Steady past (readOpening flags) text :=
  ((skipBlank_steady flags.extended text).bind_never fun _ => readMark_steady flags).congr fun more _ =>
    readOpening_eq flags (text ++ more)

/-- Dropping the mark of a lazy repetition is steady. -/
theorem dropLazy_steady (text : List Char) : Steady never (fun text => .ok ((), dropLazy text)) text := by
  -- The mark is dropped if it comes next, and a parenthesis is no such mark.
  by_cases lazy : text.head? = some '?'
  · obtain ⟨rest, rfl⟩ := List.head?_eq_some_iff.mp lazy
    exact (Steady.of_outcome (.ok ())).cons fun _ => rfl
  · refine (Steady.of_outcome (.ok ())).congr fun more ending => ?_
    rw [dropLazy_of_ne (ending.head?_ne (by decide) lazy)]
    rfl

/-- The part that an escape stands for. -/
def pieceOfAtom (flags : Flags) (atom : Atom) : Except SyntaxError Piece :=
  match atom with
  | .char c byte => (charSet flags c byte).map fun set => ⟨.oneOf set, 0, false⟩
  | .oneOf set => .ok ⟨.oneOf set, 0, false⟩
  | .assert assertion => .ok ⟨.assert assertion, 0, false⟩

/-- An escape is read first and turned into a part then. -/
theorem readPiece_escape (flags : Flags) (rest : List Char) :
    readPiece flags '\\' rest =
      readEscape flags rest >>= fun pair => (pieceOfAtom flags pair.1).map fun piece => (piece, pair.2) := by
  simp only [readPiece]
  cases readEscape flags rest with
  | error error => rfl
  | ok pair =>
    obtain ⟨atom, after⟩ := pair
    -- Only a character is looked up.
    cases atom with
    | oneOf set => rfl
    | assert assertion => rfl
    | char c byte =>
      simp only [pieceOfAtom, Bind.bind, Except.bind]
      cases charSet flags c byte <;> rfl

/-- Any other part is a single character. -/
theorem readPiece_single (flags : Flags) {c : Char} (bracket : c ≠ '[') (slash : c ≠ '\\')
    (rest : List Char) :
    readPiece flags c rest = ((readPiece flags c []).map Prod.fst).map fun piece => (piece, rest) := by
  unfold readPiece
  split
  · -- What is left to be read is a dot, an anchor or a character, and none of them goes on in the text.
    exact absurd rfl bracket
  · exact absurd rfl slash
  · cases dotSet flags <;> rfl
  · rfl
  · rfl
  · cases charSet flags c false <;> rfl

/-- What is read of an expression is lost if the parenthesis closes no group, or if braces without bounds come next. -/
def lostPiece {α : Type} (extended : Bool) (tail : List Char) (_ : α) (rest : List Char) : Prop :=
  Lost extended tail rest

/-- Reading a part after its first character is steady. -/
theorem readPiece_steady (flags : Flags) (c : Char) (rest : List Char) :
    Steady (lostPiece flags.extended) (readPiece flags c) rest := by
  -- A class goes on after its bracket, an escape after its backslash.
  by_cases bracket : c = '['
  · subst bracket
    refine (((readClass_steady flags rest).map_past fun part =>
      .ok (Piece.mk (.oneOf part.set) part.depth false)).mono fun _ _ _ => Or.inl).congr fun more _ => ?_
    rfl
  by_cases slash : c = '\\'
  · subst slash
    refine ((readEscape_steady flags rest).bind
      (fun atom _ => Steady.of_outcome (pieceOfAtom flags atom)) ?_).congr fun more _ => ?_
    · intro tail atom rest lost piece after done
      obtain ⟨_, rfl⟩ := map_eq_ok done
      exact lost.elim Or.inl And.right
    · exact readPiece_escape flags (rest ++ more)
  · refine (Steady.of_outcome ((readPiece flags c []).map Prod.fst)).congr fun more _ => ?_
    exact readPiece_single flags bracket slash (rest ++ more)

namespace ReadState

/-- What is read from an expression is lost together with the text after it. -/
def lost (tail : List Char) (state : ReadState) (rest : List Char) : Prop :=
  Lost state.level.flags.extended tail rest

/-- One step is steady. -/
theorem step_steady (state : ReadState) (c : Char) (rest : List Char) : Steady lost (state.step c) rest := by
  by_cases sign : c ∈ roundSigns
  · simp only [roundSigns, List.mem_cons, List.not_mem_nil, or_false] at sign
    -- After each sign of repetition there may be a lazy mark.
    have again : ∀ low high rest, Steady lost (fun text =>
        (state.repeated low high).map fun state => (state, dropLazy text)) rest := fun low high rest =>
      (dropLazy_steady rest).map fun _ => state.repeated low high
    rcases sign with rfl | rfl | rfl | rfl | rfl | rfl | rfl
    · -- What opens a group is read with its mark.
      refine (readOpening_steady state.level.flags rest).bind
        (fun opening _ => Steady.of_outcome (state.opened opening)) ?_
      intro tail opening rest behind after rest' done
      obtain ⟨_, rfl⟩ := map_eq_ok done
      exact Or.inl behind
    · exact Steady.of_outcome state.closed
    · exact Steady.of_outcome (.ok (state.setLevel state.level.split))
    · exact again 0 none rest
    · exact again 1 none rest
    · exact again 0 (some 1) rest
    · -- Blanks may stand between the braces and the lazy mark.
      have after : ∀ (bounds : Nat × Option Nat) rest, Steady lost (fun text =>
          (state.repeated bounds.1 bounds.2).map fun next =>
            (next, dropLazy (skipBlank state.level.flags.extended text))) rest := fun bounds rest =>
        (skipBlank_steady state.level.flags.extended rest).bind_never fun _ => again bounds.1 bounds.2
      exact (readBounds_steady state.level.flags.extended rest).bind_never after
  · -- Everything else is a part that is read alone.
    refine ((readPiece_steady state.level.flags c rest).bind
      (fun piece _ => Steady.of_outcome (.ok (state.setLevel (state.level.add piece)))) ?_).congr ?_
    · intro tail piece rest left after rest' done
      obtain ⟨same, rfl⟩ := map_eq_ok done
      exact Except.ok.inj same ▸ left
    · intro more _
      exact state.step_piece sign (rest ++ more)

/-- Where no parenthesis is left the groups stay open. -/
theorem run_outer {fuel : Nat} {state last : ReadState} {text : List Char} (open' : ')' ∉ text)
    (done : state.run fuel text = .ok last) (inside : state.outer ≠ []) : last.outer ≠ [] := by
  induction fuel generalizing state text with
  | zero => cases done
  | succ fuel ih =>
    rw [run] at done
    -- What the blanks leave stands at the end of the text, so it has no parenthesis either.
    have ending := skipBlank_suffix state.level.flags.extended text
    cases next : skipBlank state.level.flags.extended text with
    | nil =>
      rw [next] at done
      cases done
      exact inside
    | cons c rest =>
      simp only [next] at done
      rw [next] at ending
      obtain ⟨⟨state', after⟩, first, later⟩ := bind_eq_ok done
      have left := ((step_steady state c rest).suffix first).subset
      -- The character is no parenthesis, so the step leaves a group open.
      have stays : c ≠ ')' := by
        intro close
        exact open' (ending.subset (close ▸ List.mem_cons_self))
      refine ih ?_ later (step_outer first stays inside)
      exact fun member => open' (ending.subset (List.mem_cons_of_mem c (left member)))

/-- Braces that start with a parenthesis hold no bounds. -/
theorem readBounds_close {extended : Bool} {rest : List Char}
    (first : (skipBlank extended rest).head? = some ')') : readBounds extended rest = .error .badCount := by
  obtain ⟨rest', same⟩ := List.head?_eq_some_iff.mp first
  -- No digits are read where the parenthesis stands.
  have none : readDigits extended false Option.none (')' :: rest') = (Option.none, ')' :: rest') := by
    simp [readDigits]
  have start : (')' :: rest').dropWhile Unicode.isBlank = ')' :: rest' := by
    simp [isBlank_close]
  simp only [readBounds, readCount, same, start, none]
  rfl

/-- No step is made at such braces. -/
theorem step_brace {state : ReadState} {rest : List Char}
    (first : (skipBlank state.level.flags.extended rest).head? = some ')') (pair : ReadState × List Char) :
    state.step '\x7b' rest ≠ .ok pair := by
  intro now
  -- A step at a brace starts with the bounds.
  obtain ⟨_, bounds, _⟩ := bind_eq_ok now
  rw [readBounds_close first] at bounds
  cases bounds

/-- Nothing is read to the end from where it is lost, if a group is open there. -/
theorem run_lost {state : ReadState} {tail text : List Char} (lost : Lost state.level.flags.extended tail text)
    (open' : ')' ∉ tail) (inside : state.outer ≠ []) (fuel : Nat) (regex : Regex) :
    state.run fuel text >>= finish ≠ .ok regex := by
  intro done
  obtain ⟨last, reached, complete⟩ := bind_eq_ok done
  rcases lost with behind | ⟨rest, rfl, first⟩
  · -- Nothing closes the open group any more.
    have bare : ')' ∉ text := fun member => open' (behind.subset member)
    rw [finish_open (run_outer bare reached inside)] at complete
    cases complete
  · -- The braces are taken for a repetition, which has no bounds.
    cases fuel with
    | zero => cases reached
    | succ fuel =>
      rw [run, skipBlank_brace] at reached
      obtain ⟨_, now, _⟩ := bind_eq_ok reached
      exact step_brace first _ now

/-- More steps than there are characters change nothing. -/
theorem run_enough {fuel more : Nat} (state : ReadState) {text : List Char} (enough : text.length < fuel)
    (also : text.length < more) : state.run fuel text = state.run more text := by
  induction fuel generalizing state text more with
  -- Both counts of steps are used up at the same pace.
  | zero => exact absurd enough (Nat.not_lt_zero _)
  | succ fuel ih =>
    obtain ⟨more, rfl⟩ : ∃ less, more = less + 1 := ⟨more - 1, by omega⟩
    rw [run, run]
    have shorter := (skipBlank_suffix state.level.flags.extended text).length_le
    cases next : skipBlank state.level.flags.extended text with
    | nil => rfl
    | cons c rest =>
      rw [next, List.length_cons] at shorter
      simp only
      cases outcome : state.step c rest with
      | error error => rfl
      | ok pair =>
        -- The step leaves less of the text, so there are enough steps for it.
        have left := ((step_steady state c rest).suffix outcome).length_le
        exact ih pair.1 (by omega) (by omega)

/-- Reads up to the end of an expression, in as many steps as it takes. -/
def read (state : ReadState) (text : List Char) : Except SyntaxError ReadState :=
  state.run (text.length + 1) text

/-- Nothing that counts is the end of the expression. -/
theorem read_nil {state : ReadState} {text : List Char} (none : skipBlank state.level.flags.extended text = []) :
    state.read text = .ok state := by
  rw [read, run, none]

/-- The first character that counts is read with what belongs to it, and then the rest. -/
theorem read_cons {state : ReadState} {c : Char} {text rest : List Char}
    (next : skipBlank state.level.flags.extended text = c :: rest) :
    state.read text = state.step c rest >>= fun pair => pair.1.read pair.2 := by
  have shorter := (skipBlank_suffix state.level.flags.extended text).length_le
  rw [next, List.length_cons] at shorter
  rw [read, run, next]
  simp only
  cases outcome : state.step c rest with
  | error error => rfl
  | ok pair =>
    -- What is left is short enough for the steps that are left.
    have left := ((step_steady state c rest).suffix outcome).length_le
    exact run_enough pair.1 (by omega) (Nat.lt_succ_self _)

/-- Texts that differ in blanks at the front are read in the same way. -/
theorem read_congr {state : ReadState} {text text' : List Char}
    (same : skipBlank state.level.flags.extended text = skipBlank state.level.flags.extended text') :
    state.read text = state.read text' := by
  cases next : skipBlank state.level.flags.extended text with
  -- Reading starts behind the blanks.
  | nil => rw [read_nil next, read_nil (same.symm.trans next)]
  | cons c rest => rw [read_cons next, read_cons (same.symm.trans next)]

/-- Nothing is read of the empty text. -/
theorem read_empty (state : ReadState) : state.read [] = .ok state :=
  read_nil (List.suffix_nil.mp (skipBlank_suffix _ []))

/-- What holds where nothing is left that counts, and before a step if it holds after it, holds of every text. -/
theorem induction_read {Holds : ReadState → List Char → Prop}
    (ended : ∀ state text, skipBlank state.level.flags.extended text = [] → Holds state text)
    (stepped : ∀ state text c rest, skipBlank state.level.flags.extended text = c :: rest →
      (∀ state' after, state.step c rest = .ok (state', after) → Holds state' after) → Holds state text)
    (state : ReadState) (text : List Char) : Holds state text := by
  -- Each step leaves less of the text.
  induction size : text.length using Nat.strongRecOn generalizing state text with
  | ind size ih =>
    subst size
    have shorter := (skipBlank_suffix state.level.flags.extended text).length_le
    cases next : skipBlank state.level.flags.extended text with
    | nil => exact ended state text next
    | cons c rest =>
      rw [next, List.length_cons] at shorter
      refine stepped state text c rest next fun state' after first => ?_
      have left := ((step_steady state c rest).suffix first).length_le
      exact ih after.length (by omega) state' after rfl

/-- Where no group is open no parenthesis is read. -/
theorem read_close {state : ReadState} (outermost : state.outer = []) (tail : List Char) :
    state.read (')' :: tail) = .error .unopenedGroup := by
  rw [read_cons (skipBlank_close _ tail), step_close outermost]
  rfl

/-- A step that stays inside the expression is taken in the same way before the end of a group, with groups open
around it. -/
theorem read_under {state : ReadState} {c : Char} {text rest more : List Char}
    (next : skipBlank state.level.flags.extended text = c :: rest) (inside : c = ')' → state.outer ≠ [])
    (groups : List Level) (closing : Closing more) :
    (state.under groups).read (text ++ more) =
      (state.step c (rest ++ more)).map (fun pair => (pair.1.under groups, pair.2)) >>=
        fun pair => pair.1.read pair.2 := by
  -- The first step does not see the groups around.
  rw [← step_under state groups (rest ++ more) inside]
  exact read_cons (skipBlank_cons next (Or.inr closing))

/-- What has been read of a text has been read when the end of a group comes after it and groups are open around
it; whether that end is read then or belongs to a comment depends on the text alone. -/
theorem read_onward {state last : ReadState} {text : List Char} (done : state.read text = .ok last) :
    (∀ groups more, Closing more →
      (state.under groups).read (text ++ more) = (last.under groups).read more) ∨
    ∀ groups more, Closing more → (state.under groups).read (text ++ more) = .ok (last.under groups) := by
  induction state, text using induction_read with
  | ended state text next =>
    -- Nothing is left that counts, but a comment may go on.
    obtain rfl := Except.ok.inj ((read_nil next).symm.trans done)
    have blank := (skipBlank_steady state.level.flags.extended text).onward
      (congrArg (fun rest => Except.ok ((), rest)) next)
    rcases blank with go | ⟨_, swallowed⟩
    · refine Or.inl fun groups more closing => read_congr ?_
      exact (congrArg Prod.snd (Except.ok.inj (go more closing))).trans (closing.skipBlank _).symm
    · refine Or.inr fun groups more closing => ?_
      exact read_nil (congrArg Prod.snd (Except.ok.inj (swallowed more closing)))
  | stepped state text c rest next ih =>
    rw [read_cons next] at done
    obtain ⟨⟨state', after⟩, first, later⟩ := bind_eq_ok done
    -- A parenthesis that closes nothing would not have been read.
    have inside : c = ')' → state.outer ≠ [] := by
      intro close outermost
      subst close
      cases (step_close outermost rest).symm.trans first
    rcases (step_steady state c rest).onward first with go | ⟨rfl, swallowed⟩
    · refine (ih state' after first later).imp ?_ ?_
      · intro tail groups more closing
        rw [read_under next inside groups closing, go more closing]
        exact tail groups more closing
      · intro tail groups more closing
        rw [read_under next inside groups closing, go more closing]
        exact tail groups more closing
    · -- The last step has left nothing of the text, as a comment has swallowed what comes later.
      obtain rfl := Except.ok.inj ((read_empty state').symm.trans later)
      refine Or.inr fun groups more closing => ?_
      rw [read_under next inside groups closing, swallowed more closing]
      exact read_empty (state'.under groups)

/-- What is refused for another reason than a group that it does not open is refused in a group, too, if no other
group is closed after it. -/
theorem read_astray {state : ReadState} {text : List Char} {error : SyntaxError}
    (failed : state.read text = .error error) (other : error ≠ .unopenedGroup) {groups : List Level}
    {tail : List Char} (around : groups ≠ []) (line : '\n' ∉ tail) (bare : ')' ∉ tail) (regex : Regex) :
    (state.under groups).read (text ++ ')' :: tail) >>= finish ≠ .ok regex := by
  have closing : Closing (')' :: tail) := ⟨tail, rfl, line⟩
  induction state, text using induction_read with
  | ended state text next => cases (read_nil next).symm.trans failed
  | stepped state text c rest next ih =>
    rw [read_cons next] at failed
    -- A parenthesis that closes nothing would have been the reason.
    have inside : c = ')' → state.outer ≠ [] := by
      intro close outermost
      subst close
      rw [step_close outermost rest] at failed
      exact other (Except.error.inj failed).symm
    rw [read_under next inside groups closing]
    cases first : state.step c rest with
    | error error' =>
      intro done
      -- The step fails on the text alone, so it must have gone on behind it.
      obtain ⟨last, reached, complete⟩ := bind_eq_ok done
      obtain ⟨_, now, later⟩ := bind_eq_ok reached
      cases outcome : state.step c (rest ++ ')' :: tail) with
      | error error' =>
        rw [outcome] at now
        cases now
      | ok pair =>
        -- The step takes something of the end of the group and leads nowhere.
        obtain ⟨state', after⟩ := pair
        rw [outcome] at now
        cases now
        have astray := (step_steady state c rest).astray first line outcome
        have lost : Lost (state'.under groups).level.flags.extended tail after := astray
        have open' : (state'.under groups).outer ≠ [] := by simp [under, around]
        refine run_lost lost bare open' (after.length + 1) regex ?_
        exact (congrArg (· >>= finish) later).trans complete
    | ok pair =>
      obtain ⟨state', after⟩ := pair
      rw [first] at failed
      rcases (step_steady state c rest).onward first with go | ⟨rfl, _⟩
      · -- The step stays inside the text, and the failure comes later.
        rw [go _ closing]
        exact ih state' after first failed
      · cases (read_empty state').symm.trans failed

end ReadState

/-- A text is read from its start to its end. -/
theorem ofText_eq (text : List Char) :
    ofText text = ReadState.read ⟨[], { flags := {} }, []⟩ text >>= ReadState.finish :=
  readFrom_eq (text.length + 1) ⟨[], { flags := {} }, []⟩ text

end ModuleScope.Regex
