import ModuleScope.Proofs.Regex.Extension.Reader
import ModuleScope.Regex.Escape

/-! What a backslash and the text after it stand for is read in the same way when the end of a group comes after
the text. -/

namespace ModuleScope.Regex

/-- The parenthesis at the end of the group closes no group, or it is the first thing in braces, which then hold no
bounds of a repetition; `tail` is what comes after the parenthesis. -/
def Lost (extended : Bool) (tail text : List Char) : Prop :=
  -- In the first case it has been read with something that it does not belong to.
  text <:+ tail ∨ ∃ rest, text = '\x7b' :: rest ∧ (skipBlank extended rest).head? = some ')'

/-- A brace is no blank and starts no comment. -/
theorem skipBlank_brace (extended : Bool) (rest : List Char) :
    skipBlank extended ('\x7b' :: rest) = '\x7b' :: rest := by
  have blank : Unicode.isBlank '\x7b' = false := by decide +kernel
  cases extended <;> simp [skipBlank, skipFrom, blank]

/-- What is read is lost with the text after it; braces without bounds come after conditions only. -/
def lostAtom (extended : Bool) (tail : List Char) (atom : Atom) (rest : List Char) : Prop :=
  -- A condition is no character, so a class cannot go on with it.
  rest <:+ tail ∨ (∃ assertion, atom = .assert assertion) ∧ Lost extended tail rest

/-- Reads a property when the blanks before it have been dropped. -/
def readPropertyName (flags : Flags) (negated : Bool) (text : List Char) :
    Except SyntaxError (Atom × List Char) :=
  match text with
  | [] => .error .badEscape
  | '\x7b' :: rest =>
    match readBraced flags.extended false rest with
    | none => .error .badEscape
    | some (name, after) => do .ok (.oneOf (← propertyClass flags negated name), after)
  | '\\' :: _ => .error .unknownProperty
  | c :: rest => do .ok (.oneOf (← propertyClass flags negated [c]), rest)

/-- The name of a property without braces is one character. -/
theorem readPropertyName_char (flags : Flags) (negated : Bool) {c : Char} (brace : c ≠ '\x7b')
    (slash : c ≠ '\\') (rest : List Char) :
    readPropertyName flags negated (c :: rest) =
      ((propertyClass flags negated [c]).map Atom.oneOf).map fun atom => (atom, rest) := by
  simp only [readPropertyName]
  cases propertyClass flags negated [c] <;> rfl

/-- Reading the name of a property is steady, but the parenthesis at the end of the group is taken for a name. -/
theorem readPropertyName_steady (flags : Flags) (negated : Bool) (text : List Char) :
    Steady past (readPropertyName flags negated) text := by
  cases text with
  | nil =>
    -- A property of that name is looked for, and whatever comes of it, the parenthesis is gone.
    refine Steady.nil rfl fun tail found rest done => ?_
    rw [readPropertyName_char flags negated (by decide) (by decide)] at done
    obtain ⟨_, rfl⟩ := map_eq_ok done
    exact List.suffix_refl tail
  | cons c rest =>
    -- A name is in braces, or it is one character.
    by_cases brace : c = '\x7b'
    · subst brace
      refine ((readBraced_steady .badEscape flags.extended false rest).map_past fun name =>
        (propertyClass flags negated name).map Atom.oneOf).cons fun text => ?_
      simp only [readPropertyName]
      cases readBraced flags.extended false text with
      | none => rfl
      | some pair =>
        obtain ⟨name, after⟩ := pair
        simp only [Option.elim_some, Bind.bind, Except.bind]
        cases propertyClass flags negated name <;> rfl
    by_cases slash : c = '\\'
    · subst slash
      exact (Steady.of_outcome (.error .unknownProperty)).cons fun _ => rfl
    · exact (Steady.of_outcome ((propertyClass flags negated [c]).map Atom.oneOf)).cons
        (readPropertyName_char flags negated brace slash)

/-- Reading a property is steady, but the parenthesis at the end of the group is taken for a name. -/
theorem readProperty_steady (flags : Flags) (negated : Bool) (text : List Char) :
    Steady past (readProperty flags negated) text :=
  ((skipBlank_steady flags.extended text).bind_never fun _ => readPropertyName_steady flags negated).congr
    fun _ _ => rfl

/-- The condition that the name of a word boundary in braces stands for. -/
def boundaryOf (flags : Flags) (name : List Char) : Except SyntaxError Atom :=
  (edgeNamed? name).elim (.error .badBoundary) fun edge => .ok (.assert (.word edge !flags.unicode))

/-- Braces after a word boundary that start with a letter or a hyphen hold its name. -/
theorem readBoundary_named (flags : Flags) {rest inner : List Char} {c : Char}
    (next : skipBlank flags.extended rest = c :: inner) (letter : (c.isAlpha || c = '-') = true) :
    readBoundary flags ('\x7b' :: rest) =
      (readBraced flags.extended false (skipBlank flags.extended rest)).elim (.error .badBoundary) .ok >>=
        fun pair => (boundaryOf flags pair.1).map fun atom => (atom, pair.2) := by
  simp only [readBoundary, next, letter, if_true, boundaryOf]
  cases readBraced flags.extended false (c :: inner) with
  | none => rfl
  | some pair =>
    obtain ⟨name, after⟩ := pair
    simp only [Option.elim_some, Bind.bind, Except.bind]
    cases edgeNamed? name <;> rfl

/-- All other braces after a word boundary are left alone. -/
theorem readBoundary_repeated (flags : Flags) {rest inner : List Char} {c : Char}
    (next : skipBlank flags.extended rest = c :: inner) (other : ¬(c.isAlpha || c = '-') = true) :
    readBoundary flags ('\x7b' :: rest) =
      .ok (.assert (.word .boundary !flags.unicode), '\x7b' :: rest) := by
  simp only [readBoundary, next, other, if_false, Bool.false_eq_true]

/-- Without braces a word boundary is a plain one. -/
theorem readBoundary_plain (flags : Flags) {text : List Char} (plain : text.head? ≠ some '\x7b') :
    readBoundary flags text = .ok (.assert (.word .boundary !flags.unicode), text) := by
  unfold readBoundary
  split
  · exact absurd rfl plain
  · rfl

/-- Reading a word boundary is steady; where its braces are not closed it may be read before lost braces. -/
theorem readBoundary_steady (flags : Flags) (text : List Char) :
    Steady (lostAtom flags.extended) (readBoundary flags) text := by
  -- Only braces after it could make it another condition.
  by_cases brace : text.head? = some '\x7b'
  · obtain ⟨rest, rfl⟩ := List.head?_eq_some_iff.mp brace
    cases next : skipBlank flags.extended rest with
    | nil =>
      have fails : readBoundary flags ('\x7b' :: rest) = .error .badBoundary := by
        simp [readBoundary, next]
      constructor
      · intro found rest' done
        cases fails.symm.trans done
      · intro found rest' done
        cases fails.symm.trans done
      · -- Only the parenthesis at the end of the group comes in the braces, if anything comes at all.
        intro error _ tail line found rest' done
        rcases skipBlank_nil next ⟨tail, rfl, line⟩ with first | swallowed
        · cases (readBoundary_repeated flags first (by decide)).symm.trans done
          exact Or.inr ⟨⟨_, rfl⟩, Or.inr ⟨_, rfl, by rw [first, List.head?_cons]⟩⟩
        · simp [readBoundary, swallowed] at done
    | cons c inner =>
      -- The first character in the braces tells a name from the bounds of a repetition.
      by_cases letter : (c.isAlpha || c = '-') = true
      · have name := (skipBlank_steady flags.extended rest).bind_never fun _ =>
          readBraced_steady .badBoundary flags.extended false
        refine ((name.map_past (boundaryOf flags)).mono fun _ _ _ => Or.inl).cons_onward fun more ending => ?_
        exact readBoundary_named flags (skipBlank_cons next ending) letter
      · refine (Steady.of_outcome (.ok (.assert (.word .boundary !flags.unicode)))).congr fun more ending => ?_
        exact readBoundary_repeated flags (skipBlank_cons next ending) letter
  · refine (Steady.of_outcome (.ok (.assert (.word .boundary !flags.unicode)))).congr fun more ending => ?_
    exact readBoundary_plain flags (ending.head?_ne (by decide) brace)

/-- The letters after a backslash that more text belongs to. -/
def longEscapes : List Char := ['x', 'u', 'U', 'p', 'P', 'b']

/-- The letters after a backslash that name a class. -/
def classLetters : List Char := ['d', 's', 'w', 'D', 'S', 'W']

/-- The letters and signs after a backslash that stand for a condition. -/
def conditionSigns : List Char := ['A', 'z', 'B', '<', '>']

/-- A letter that names a class is read alone. -/
theorem readEscape_class (flags : Flags) {c : Char} (letter : c ∈ classLetters) (rest : List Char) :
    readEscape flags (c :: rest) = (letterClass flags c).map fun set => (.oneOf set, rest) := by
  simp only [classLetters, List.mem_cons, List.not_mem_nil, or_false] at letter
  have read : readEscape flags (c :: rest) = (do .ok (.oneOf (← letterClass flags c), rest)) := by
    rcases letter with rfl | rfl | rfl | rfl | rfl | rfl <;> rfl
  rw [read]
  cases letterClass flags c <;> rfl

/-- Any other character after a backslash is read alone. -/
theorem readEscape_short (flags : Flags) {c : Char} (short : c ∉ longEscapes) (rest : List Char) :
    readEscape flags (c :: rest) = ((readEscape flags [c]).map Prod.fst).map fun atom => (atom, rest) := by
  -- Classes and conditions each have letters of their own.
  by_cases letter : c ∈ classLetters
  · rw [readEscape_class flags letter, readEscape_class flags letter]
    cases letterClass flags c <;> rfl
  by_cases condition : c ∈ conditionSigns
  · simp only [conditionSigns, List.mem_cons, List.not_mem_nil, or_false] at condition
    rcases condition with rfl | rfl | rfl | rfl | rfl <;> rfl
  -- Every other character stands for itself or for a control character, or it is refused.
  simp only [longEscapes, List.mem_cons, List.not_mem_nil, or_false, not_or] at short
  simp only [classLetters, List.mem_cons, List.not_mem_nil, or_false, not_or] at letter
  simp only [conditionSigns, List.mem_cons, List.not_mem_nil, or_false, not_or] at condition
  by_cases digit : c.isDigit = true
  · simp [readEscape, digit, Except.map]
  by_cases sign : isEscapable c = true
  · simp [readEscape, digit, short, letter, condition, sign, Except.map]
  · cases control : controlChar? c <;>
      simp [readEscape, digit, short, letter, condition, sign, control, Except.map]

/-- Reads a code point after the letter `x`, which is written as a byte if it stands without braces. -/
def readByte (extended : Bool) (text : List Char) : Except SyntaxError (Atom × List Char) := do
  let (code, rest) ← readCode extended 2 text
  .ok (.char code (text.head? ≠ some '\x7b'), rest)

/-- Reading a code point after the letter `x` is steady. -/
theorem readByte_steady (extended : Bool) (text : List Char) : Steady past (readByte extended) text := by
  cases text with
  | nil =>
    refine Steady.nil rfl fun tail found rest done => ?_
    cases done
  | cons c rest =>
    -- Whether there are braces shows at the first character.
    exact ((readCode_steady extended 2 (c :: rest)).map_past fun code =>
      .ok (Atom.char code (c ≠ '\x7b'))).congr fun more _ => by simp [readByte, Except.map]

/-- Reading what follows a backslash is steady, but the parenthesis at the end of the group is taken for what
the backslash protects. -/
theorem readEscape_steady (flags : Flags) (text : List Char) :
    Steady (lostAtom flags.extended) (readEscape flags) text := by
  cases text with
  | nil =>
    -- The backslash takes the parenthesis away from the group.
    refine Steady.nil rfl fun tail found rest done => ?_
    rw [readEscape_short flags (by decide)] at done
    obtain ⟨_, rfl⟩ := map_eq_ok done
    exact Or.inl (List.suffix_refl tail)
  | cons c rest =>
    -- Some escapes go on after their letter, and the others are one character long.
    by_cases long : c ∈ longEscapes
    · have code := fun digits => (skipBlank_steady flags.extended rest).bind_never fun _ =>
        readCode_steady flags.extended digits
      simp only [longEscapes, List.mem_cons, List.not_mem_nil, or_false] at long
      rcases long with rfl | rfl | rfl | rfl | rfl | rfl
      · have byte := (skipBlank_steady flags.extended rest).bind_never fun _ => readByte_steady flags.extended
        exact (byte.mono fun _ _ _ => Or.inl).cons fun _ => rfl
      · exact (((code 4).map_past fun c => .ok (Atom.char c false)).mono fun _ _ _ => Or.inl).cons fun _ => rfl
      · exact (((code 8).map_past fun c => .ok (Atom.char c false)).mono fun _ _ _ => Or.inl).cons fun _ => rfl
      · exact ((readProperty_steady flags false rest).mono fun _ _ _ => Or.inl).cons fun _ => rfl
      · exact ((readProperty_steady flags true rest).mono fun _ _ _ => Or.inl).cons fun _ => rfl
      · exact (readBoundary_steady flags rest).cons fun _ => rfl
    · exact (Steady.of_outcome ((readEscape flags [c]).map Prod.fst)).cons (readEscape_short flags long)

end ModuleScope.Regex
