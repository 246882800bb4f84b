import ModuleScope.Proofs.Regex.Reading

/-! What has been read of a text is read just so when the end of a group comes after the text. -/

namespace ModuleScope.Regex

open Unicode (isBlank)

/-- Something that is read from the front of a text, and the text after it. -/
abbrev Reader (α : Type) : Type := List Char → Except SyntaxError (α × List Char)

/-- What may come after an expression in a group: the parenthesis that closes the group, and the rest of the line. -/
def Closing (more : List Char) : Prop :=
  -- No number, name or blank goes on with the parenthesis, and a comment goes on to the end of the line.
  ∃ tail, more = ')' :: tail ∧ '\n' ∉ tail

/-- What may come after a text, or nothing. -/
def Ending (more : List Char) : Prop := more = [] ∨ Closing more

/-- A text that does not start with some character other than the parenthesis does not start with it later. -/
theorem Ending.head?_ne {text more : List Char} {c : Char} (ending : Ending more) (other : c ≠ ')')
    (next : text.head? ≠ some c) : (text ++ more).head? ≠ some c := by
  cases text with
  | cons first rest => exact next
  | nil =>
    rcases ending with rfl | ⟨tail, rfl, _⟩
    · exact next
    · intro same
      exact other (Option.some.inj same).symm

/-- A text that is not made of `c` and more does not start with it. -/
theorem head?_ne_of_forall {text : List Char} {c : Char} (other : ∀ rest, text = c :: rest → False) :
    text.head? ≠ some c := by
  intro same
  obtain ⟨rest, made⟩ := List.head?_eq_some_iff.mp same
  exact other rest made

/-- What comes after the text is left over, or else it belongs to a comment at the end of the text. -/
def Onward {α : Type} (read : Reader α) (text : List Char) (found : α) (rest : List Char) : Prop :=
  -- The choice does not depend on what comes after the text.
  (∀ more, Closing more → read (text ++ more) = .ok (found, rest ++ more)) ∨
    rest = [] ∧ ∀ more, Closing more → read (text ++ more) = .ok (found, [])

/-- What is read of the text does not change when the end of a group comes after it; where nothing can be read
of the text alone, what is read with the help of that end is `lost`, given what comes after the parenthesis. -/
structure Steady {α : Type} (lost : List Char → α → List Char → Prop) (read : Reader α) (text : List Char) :
    Prop where
  /-- The text after what is read is the end of the whole text. -/
  suffix : ∀ {found rest}, read text = .ok (found, rest) → rest <:+ text
  /-- Success stays what it is. -/
  onward : ∀ {found rest}, read text = .ok (found, rest) → Onward read text found rest
  /-- Failure stays failure or leads nowhere. -/
  astray : ∀ {error}, read text = .error error → ∀ {tail}, '\n' ∉ tail →
    ∀ {found rest}, read (text ++ ')' :: tail) = .ok (found, rest) → lost tail found rest

/-- Nothing that can be read is lost: failure stays failure. -/
def never {α : Type} (_ : List Char) (_ : α) (_ : List Char) : Prop := False

/-- What is read is lost because the parenthesis belongs to it and closes no group. -/
def past {α : Type} (tail : List Char) (_ : α) (rest : List Char) : Prop := rest <:+ tail

/-- Goes on after what has been read, or else starts again in another way. -/
def orElse {α β : Type} (first : Except SyntaxError (α × List Char)) (next : α → Reader β)
    (other : Except SyntaxError (β × List Char)) : Except SyntaxError (β × List Char) :=
  match first with
  | .ok pair => next pair.1 pair.2
  | .error _ => other

namespace Steady

variable {α β : Type} {lost : List Char → α → List Char → Prop} {lost' : List Char → β → List Char → Prop}
  {read read' : Reader α} {next : α → Reader β} {text rest : List Char} {c : Char}

/-- An outcome that does not depend on the text is steady. -/
theorem of_outcome (outcome : Except SyntaxError α) :
    Steady lost (fun text => outcome.map fun found => (found, text)) text := by
  cases outcome with
  | error error =>
    -- A failure is the same for every text.
    constructor
    · intro found rest done
      cases done
    · intro found rest done
      cases done
    · intro _ _ tail _ found rest done
      cases done
  | ok value =>
    -- A success leaves all of the text.
    constructor
    · intro found rest done
      cases done
      exact List.suffix_refl _
    · intro found rest done
      cases done
      exact Or.inl fun _ _ => rfl
    · intro error failed
      cases failed

/-- What follows the first characters decides, if they are read in any case. -/
theorem append (before : List Char)
    (same : ∀ more, Ending more → read (before ++ (rest ++ more)) = read' (rest ++ more))
    (steady : Steady lost read' rest) : Steady lost read (before ++ rest) := by
  -- Without anything after it, too, the text is read by the second reader.
  have alone : read (before ++ rest) = read' rest := by simpa using same [] (Or.inl rfl)
  have later : ∀ more, Closing more → read (before ++ rest ++ more) = read' (rest ++ more) := by
    intro more closing
    rw [List.append_assoc]
    exact same more (Or.inr closing)
  constructor
  · intro found rest' done
    exact (steady.suffix (alone.symm.trans done)).trans (List.suffix_append before rest)
  · intro found rest' done
    rcases steady.onward (alone.symm.trans done) with go | ⟨none, swallowed⟩
    · exact Or.inl fun more closing => (later more closing).trans (go more closing)
    · exact Or.inr ⟨none, fun more closing => (later more closing).trans (swallowed more closing)⟩
  · intro error failed tail line found rest' done
    exact steady.astray (alone.symm.trans failed) line ((later _ ⟨tail, rfl, line⟩).symm.trans done)

/-- Readers that agree on the text and whatever comes after it are steady together. -/
theorem congr (same : ∀ more, Ending more → read (text ++ more) = read' (text ++ more))
    (steady : Steady lost read' text) : Steady lost read text :=
  steady.append [] same

/-- What follows the first character decides, if that character is read in any case. -/
theorem cons_onward (same : ∀ more, Ending more → read (c :: (rest ++ more)) = read' (rest ++ more))
    (steady : Steady lost read' rest) : Steady lost read (c :: rest) :=
  steady.append [c] same

/-- What follows the first character decides, whatever that is. -/
theorem cons (same : ∀ text, read (c :: text) = read' text) (steady : Steady lost read' rest) :
    Steady lost read (c :: rest) :=
  steady.cons_onward fun more _ => same (rest ++ more)

/-- Where nothing can be read of the empty text, only what is read from the parenthesis on matters. -/
theorem nil {error : SyntaxError} (fails : read [] = .error error)
    (leads : ∀ tail found rest, read (')' :: tail) = .ok (found, rest) → lost tail found rest) :
    Steady lost read [] := by
  constructor
  · intro found rest done
    rw [fails] at done
    cases done
  · intro found rest done
    rw [fails] at done
    cases done
  · intro _ _ tail _ found rest done
    exact leads tail found rest done

/-- Finding something before a character that stays where it is does not depend on what comes later. -/
theorem stay (found : α) (same : ∀ text, read (c :: text) = .ok (found, c :: text)) :
    Steady lost read (c :: rest) := by
  constructor
  · intro value rest' done
    cases (same rest).symm.trans done
    exact List.suffix_refl _
  · intro value rest' done
    cases (same rest).symm.trans done
    exact Or.inl fun more _ => same (rest ++ more)
  · intro error failed
    cases (same rest).symm.trans failed

/-- Finding something in the empty text is steady if the end of a group is left over, or else dropped. -/
theorem finish (found : α) (alone : read [] = .ok (found, []))
    (later : (∀ more, Closing more → read more = .ok (found, more)) ∨
      ∀ more, Closing more → read more = .ok (found, [])) : Steady lost read [] := by
  constructor
  · intro value rest done
    cases alone.symm.trans done
    exact List.suffix_refl _
  · intro value rest done
    cases alone.symm.trans done
    exact later.imp id fun dropped => ⟨rfl, dropped⟩
  · intro error failed
    cases alone.symm.trans failed

/-- Asking for one sign at the front is steady, unless it is the parenthesis at the end of a group. -/
theorem sign {error : SyntaxError} (outcome : Except SyntaxError α) (other : c ≠ ')')
    (present : ∀ text, read (c :: text) = outcome.map fun found => (found, text))
    (absent : ∀ text, text.head? ≠ some c → read text = .error error) (text : List Char) :
    Steady lost read text := by
  -- Whether the sign is there shows at the front of the text or, if that is empty, at the parenthesis.
  by_cases first : text.head? = some c
  · obtain ⟨rest, rfl⟩ := List.head?_eq_some_iff.mp first
    exact (of_outcome outcome).cons present
  · refine (of_outcome (.error error)).congr fun more ending => ?_
    exact absent (text ++ more) (ending.head?_ne other first)

/-- What is lost may be described in other words. -/
theorem mono {lost' : List Char → α → List Char → Prop} (steady : Steady lost read text)
    (weaker : ∀ tail found rest, lost tail found rest → lost' tail found rest) : Steady lost' read text := by
  refine ⟨steady.suffix, steady.onward, ?_⟩
  intro error failed tail line found rest done
  exact weaker tail found rest (steady.astray failed line done)

/-- One steady reader after the other is steady, if what the first loses is lost for the second, which need be
steady on no more than the end of the text. -/
theorem bind_within (first : Steady lost read text)
    (second : ∀ found rest, rest <:+ text → Steady lost' (next found) rest)
    (carry : ∀ tail found rest, lost tail found rest → ∀ last rest', next found rest = .ok (last, rest') →
      lost' tail last rest') :
    Steady lost' (fun text => read text >>= fun pair => next pair.1 pair.2) text := by
  -- The first reader succeeds wherever both do.
  have split : ∀ text last rest', (read text >>= fun pair => next pair.1 pair.2) = .ok (last, rest') →
      ∃ found rest, read text = .ok (found, rest) ∧ next found rest = .ok (last, rest') := by
    intro text last rest' done
    obtain ⟨pair, before, after⟩ := bind_eq_ok done
    exact ⟨pair.1, pair.2, before, after⟩
  -- If the first reader succeeds the second one decides.
  have join : ∀ {text found rest}, read text = .ok (found, rest) →
      (read text >>= fun pair => next pair.1 pair.2) = next found rest := by
    intro text found rest done
    rw [done]
    rfl
  constructor
  · intro last rest' done
    obtain ⟨found, rest, before, after⟩ := split text last rest' done
    have ending := first.suffix before
    exact ((second found rest ending).suffix after).trans ending
  · intro last rest' done
    obtain ⟨found, rest, before, after⟩ := split text last rest' done
    have ending := first.suffix before
    rcases first.onward before with go | ⟨rfl, swallowed⟩
    · rcases (second found rest ending).onward after with go' | ⟨rfl, swallowed'⟩
      · exact Or.inl fun more closing => (join (go more closing)).trans (go' more closing)
      · exact Or.inr ⟨rfl, fun more closing => (join (go more closing)).trans (swallowed' more closing)⟩
    · -- The comment that swallows what comes later leaves nothing to the second reader.
      obtain rfl := List.suffix_nil.mp ((second found [] ending).suffix after)
      exact Or.inr ⟨rfl, fun more closing => (join (swallowed more closing)).trans after⟩
  · intro error failed tail line last rest' done
    obtain ⟨found, rest, before, after⟩ := split _ last rest' done
    cases outcome : read text with
    -- Either the first reader is the one that fails.
    | error error => exact carry tail found rest (first.astray outcome line before) last rest' after
    | ok pair =>
      -- Or the second one is.
      obtain ⟨value, middle⟩ := pair
      rw [join outcome] at failed
      rcases first.onward outcome with go | ⟨rfl, swallowed⟩
      · cases before.symm.trans (go _ ⟨tail, rfl, line⟩)
        exact (second found middle (first.suffix outcome)).astray failed line after
      · cases before.symm.trans (swallowed _ ⟨tail, rfl, line⟩)
        rw [failed] at after
        cases after

/-- One steady reader after the other is steady, if what the first loses is lost for the second. -/
theorem bind (first : Steady lost read text) (second : ∀ found rest, Steady lost' (next found) rest)
    (carry : ∀ tail found rest, lost tail found rest → ∀ last rest', next found rest = .ok (last, rest') →
      lost' tail last rest') :
    Steady lost' (fun text => read text >>= fun pair => next pair.1 pair.2) text :=
  first.bind_within (fun found rest _ => second found rest) carry

/-- After a reader whose failures stay failures any steady reader may come. -/
theorem bind_never (first : Steady never read text) (second : ∀ found rest, Steady lost' (next found) rest) :
    Steady lost' (fun text => read text >>= fun pair => next pair.1 pair.2) text :=
  first.bind second fun _ _ _ lost => lost.elim

/-- What is read with a parenthesis that closes no group stays so with what is read after it. -/
theorem bind_past (first : Steady past read text) (second : ∀ found rest, Steady lost' (next found) rest)
    (carry : ∀ tail found rest, past tail found rest → lost' tail found rest) :
    Steady lost' (fun text => read text >>= fun pair => next pair.1 pair.2) text := by
  refine first.bind second fun tail found rest behind last rest' done => carry tail last rest' ?_
  exact ((second found rest).suffix done).trans behind

/-- A reader that is tried first is steady with whatever comes after its success and in its place. -/
theorem prefer (first : Steady never read text) (found : ∀ value rest, Steady lost' (next value) rest)
    {other : Reader β} (instead : Steady lost' other text) :
    Steady lost' (fun text => orElse (read text) next (other text)) text := by
  cases outcome : read text with
  | error error =>
    refine instead.congr fun more ending => ?_
    -- The failure stays a failure, so the other reader is asked again.
    cases later : read (text ++ more) with
    | error error => rfl
    | ok pair =>
      rcases ending with rfl | ⟨tail, rfl, line⟩
      · rw [List.append_nil, outcome] at later
        cases later
      · exact (first.astray outcome line later).elim
  | ok pair =>
    -- The success stays one with the same value, so the other reader is never asked.
    obtain ⟨value, rest⟩ := pair
    refine (first.bind_never found).congr fun more ending => ?_
    have later : ∃ rest', read (text ++ more) = .ok (value, rest') := by
      rcases ending with rfl | closing
      · exact ⟨rest, by rw [List.append_nil, outcome]⟩
      · rcases first.onward outcome with go | ⟨_, swallowed⟩
        · exact ⟨_, go more closing⟩
        · exact ⟨_, swallowed more closing⟩
    obtain ⟨rest', later⟩ := later
    rw [later]
    rfl

/-- What has been read, if only behind the parenthesis, may be turned into something else. -/
theorem map_past (first : Steady past read text) (outcome : α → Except SyntaxError β) :
    Steady past (fun text => read text >>= fun pair => (outcome pair.1).map fun found => (found, pair.2))
      text :=
  first.bind_past (fun found _ => of_outcome (outcome found)) fun _ _ _ => id

/-- What has been read may be turned into something else. -/
theorem map (first : Steady never read text) (outcome : α → Except SyntaxError β) :
    Steady lost' (fun text => read text >>= fun pair => (outcome pair.1).map fun found => (found, pair.2))
      text :=
  first.bind_never fun found _ => of_outcome (outcome found)

end Steady

/-- The end of a group is one line. -/
theorem Closing.oneLine {more : List Char} (closing : Closing more) : '\n' ∉ more := by
  obtain ⟨tail, rfl, line⟩ := closing
  simp [line]

/-- The parenthesis at the end of a group is no blank. -/
theorem isBlank_close : isBlank ')' = false := by decide +kernel

/-- A text is scanned from character to character, through comments and with something that has been found so far,
until a character stops the scan. -/
structure Scanner {σ : Type} (scan : Bool → σ → List Char → σ × List Char) : Prop where
  /-- The end of the text stops the scan. -/
  done : ∀ inComment found, scan inComment found [] = (found, [])
  /-- A comment goes on to the end of its line. -/
  comment : ∀ found c rest, scan true found (c :: rest) = scan (c ≠ '\n') found rest
  /-- Outside comments each character stops the scan or is passed over. -/
  each : ∀ found c, (∀ rest, scan false found (c :: rest) = (found, c :: rest)) ∨
    ∃ inComment found', ∀ rest, scan false found (c :: rest) = scan inComment found' rest
  /-- The parenthesis at the end of a group stops the scan. -/
  close : ∀ found tail, scan false found (')' :: tail) = (found, ')' :: tail)

namespace Scanner

variable {σ : Type} {scan : Bool → σ → List Char → σ × List Char}

/-- A comment swallows what stands on its line. -/
theorem swallows (scanner : Scanner scan) (found : σ) {text : List Char} (oneLine : '\n' ∉ text) :
    scan true found text = (found, []) := by
  induction text with
  | nil => exact scanner.done true found
  | cons c rest ih =>
    rw [List.mem_cons, not_or] at oneLine
    have inside : decide (c ≠ '\n') = true := decide_eq_true (Ne.symm oneLine.1)
    rw [scanner.comment, inside]
    exact ih oneLine.2

/-- Scanning a text is steady. -/
theorem steady (scanner : Scanner scan) (inComment : Bool) (found : σ) (text : List Char) :
    Steady never (fun text => .ok (scan inComment found text)) text := by
  induction text generalizing inComment found with
  | nil =>
    refine Steady.finish found (congrArg Except.ok (scanner.done inComment found)) ?_
    cases inComment with
    -- A comment swallows the end of the group.
    | true => exact Or.inr fun more closing => by rw [scanner.swallows found closing.oneLine]
    | false =>
      refine Or.inl fun more closing => ?_
      obtain ⟨tail, rfl, _⟩ := closing
      rw [scanner.close]
  | cons c rest ih =>
    cases inComment with
    | true => exact (ih (c ≠ '\n') found).cons fun text => by rw [scanner.comment]
    | false =>
      -- The scan stops at the character or passes it.
      rcases scanner.each found c with stops | ⟨inComment, found', passes⟩
      · exact Steady.stay found fun text => by rw [stops]
      · exact (ih inComment found').cons fun text => by rw [passes]

end Scanner

/-- Blanks and comments are passed over. -/
theorem skipFrom_scanner : Scanner fun inComment (_ : Unit) text => ((), skipFrom inComment text) where
  done inComment _ := by cases inComment <;> rfl
  comment _ c rest := by simp [skipFrom]
  each _ c := by
    by_cases blank : isBlank c
    · exact Or.inr ⟨false, (), fun rest => by simp [skipFrom, blank]⟩
    by_cases mark : c = '#'
    · subst mark
      exact Or.inr ⟨true, (), fun rest => by simp [skipFrom, blank]⟩
    · exact Or.inl fun rest => by simp [skipFrom, blank, mark]
  close _ tail := by simp [skipFrom, isBlank_close]

/-- Dropping blanks and comments where they do not count is steady. -/
theorem skipBlank_steady (extended : Bool) (text : List Char) :
    Steady never (fun text => .ok ((), skipBlank extended text)) text := by
  cases extended with
  | true => exact skipFrom_scanner.steady false () text
  | false => exact Steady.of_outcome (.ok ())

/-- The parenthesis at the end of a group is not dropped. -/
theorem skipBlank_close (extended : Bool) (tail : List Char) : skipBlank extended (')' :: tail) = ')' :: tail := by
  cases extended with
  | true => exact congrArg Prod.snd (skipFrom_scanner.close () tail)
  | false => rfl

/-- Nothing at the end of a group is dropped. -/
theorem Closing.skipBlank {more : List Char} (closing : Closing more) (extended : Bool) :
    skipBlank extended more = more := by
  obtain ⟨tail, rfl, _⟩ := closing
  exact skipBlank_close extended tail

/-- Dropping blanks leaves the end of a text. -/
theorem skipBlank_suffix (extended : Bool) (text : List Char) : skipBlank extended text <:+ text :=
  (skipBlank_steady extended text).suffix rfl

/-- A character that counts stays the first one. -/
theorem skipBlank_cons {extended : Bool} {text rest more : List Char} {c : Char}
    (next : skipBlank extended text = c :: rest) (ending : Ending more) :
    skipBlank extended (text ++ more) = c :: (rest ++ more) := by
  rcases ending with rfl | closing
  · simpa using next
  have steady := skipBlank_steady extended text
  rcases steady.onward (congrArg (fun rest => Except.ok ((), rest)) next) with go | ⟨none, _⟩
  · exact congrArg Prod.snd (Except.ok.inj (go more closing))
  · cases none

/-- Where nothing counts the end of the group comes first, or else it belongs to a comment. -/
theorem skipBlank_nil {extended : Bool} {text more : List Char} (none : skipBlank extended text = [])
    (closing : Closing more) :
    skipBlank extended (text ++ more) = more ∨ skipBlank extended (text ++ more) = [] := by
  have steady := skipBlank_steady extended text
  rcases steady.onward (congrArg (fun rest => Except.ok ((), rest)) none) with go | ⟨_, swallowed⟩
  · exact Or.inl (congrArg Prod.snd (Except.ok.inj (go more closing)))
  · exact Or.inr (congrArg Prod.snd (Except.ok.inj (swallowed more closing)))

/-- Reading hexadecimal digits is steady. -/
theorem readHex_steady (extended : Bool) (count value : Nat) (text : List Char) :
    Steady never (readHex extended count value) text := by
  induction count generalizing value text with
  | zero => exact Steady.of_outcome (.ok value)
  | succ count ih =>
    cases text with
    | nil =>
      -- The parenthesis is no digit.
      refine Steady.nil rfl fun tail found rest done => ?_
      simp [readHex, hexDigit?] at done
    | cons c rest =>
      -- A digit is read, and then the blanks after it.
      cases value? : hexDigit? c with
      | none =>
        refine (Steady.of_outcome (.error .badCode)).cons fun _ => ?_
        simp [readHex, value?, Except.map]
      | some digit =>
        refine Steady.cons (fun text => ?_)
          ((skipBlank_steady extended rest).bind_never fun _ rest => ih (16 * value + digit) rest)
        simp [readHex, value?]
        rfl

/-- What comes after the closing brace comes after the first character. -/
theorem readBraced_suffix {extended inComment : Bool} {text inner after : List Char}
    (done : readBraced extended inComment text = some (inner, after)) : after <:+ text.tail := by
  induction text generalizing inComment inner with
  | nil => cases done
  | cons c rest ih =>
    -- Unless the brace comes first, it comes later.
    have later {inComment : Bool} {inner : List Char}
        (found : readBraced extended inComment rest = some (inner, after)) : after <:+ rest :=
      (ih found).trans (List.tail_suffix rest)
    rw [readBraced] at done
    split at done
    · exact later done
    split at done
    · exact later done
    split at done
    · exact later done
    split at done
    · cases done
      exact List.suffix_refl _
    · obtain ⟨⟨_, _⟩, found, same⟩ := Option.map_eq_some_iff.mp done
      cases same
      exact later found

/-- Reading up to a closing brace is steady, but that may stand behind the parenthesis at the end of the group. -/
theorem readBraced_steady (error : SyntaxError) (extended inComment : Bool) (text : List Char) :
    Steady past (fun text => (readBraced extended inComment text).elim (.error error) .ok) text := by
  induction text generalizing inComment with
  | nil =>
    -- The parenthesis stands in the braces.
    refine Steady.nil rfl fun tail found rest done => ?_
    have read : readBraced extended inComment (')' :: tail) = some (found, rest) := by
      cases outcome : readBraced extended inComment (')' :: tail) with
      | none => simp [outcome] at done
      | some pair => simpa [outcome] using done
    exact readBraced_suffix read
  | cons c rest ih =>
    cases inComment with
    | true => exact (ih (c ≠ '\n')).cons fun _ => by simp [readBraced]
    | false =>
      -- Blanks and comments are left out.
      by_cases blank : (extended && isBlank c) = true
      · exact (ih false).cons fun _ => by simp [readBraced, blank]
      · by_cases mark : (extended && decide (c = '#')) = true
        · exact (ih true).cons fun _ => by simp [readBraced, blank, mark]
        · by_cases brace : c = '\x7d'
          · subst brace
            refine (Steady.of_outcome (.ok [])).cons fun _ => ?_
            simp only [readBraced, blank, mark, if_false, if_true, Bool.false_eq_true]
            rfl
          · refine ((ih false).map_past fun inner => .ok (c :: inner)).cons fun text => ?_
            simp only [readBraced, blank, mark, brace, if_false, Bool.false_eq_true]
            cases readBraced extended false text <;> rfl

/-- Putting a text beside an outcome can wait until the outcome is there. -/
theorem pair_of_bind {α β γ : Type} (outcome : Except SyntaxError α) (next : α → Except SyntaxError β) (after : γ) :
    (do let value ← outcome; .ok (← next value, after)) =
      (outcome >>= next).map fun last => (last, after) := by
  cases outcome with
  | error error => rfl
  | ok value =>
    show (next value >>= fun last => .ok (last, after)) = (next value).map fun last => (last, after)
    cases next value <;> rfl

/-- The character that hexadecimal digits in braces stand for. -/
def bracedCode (inner : List Char) : Except SyntaxError Char := do
  -- There has to be a digit.
  if inner.isEmpty then .error .badCode
  else
    let code ← inner.foldlM (fun value c => do
      match hexDigit? c with
      | some digit => .ok (16 * value + digit)
      | none => .error SyntaxError.badCode) 0
    charOf? code

/-- A code point in braces is read up to the closing brace. -/
theorem readCode_brace (extended : Bool) (digits : Nat) (text : List Char) :
    readCode extended digits ('\x7b' :: text) =
      (readBraced extended false text).elim (.error .badCode) .ok >>= fun pair =>
        (bracedCode pair.1).map fun c => (c, pair.2) := by
  simp only [readCode]
  cases readBraced extended false text with
  | none => rfl
  | some pair =>
    obtain ⟨inner, after⟩ := pair
    -- Without digits there is no code point.
    cases inner with
    | nil => rfl
    | cons first inner => exact pair_of_bind _ charOf? after

/-- Without a brace a code point has a fixed number of digits. -/
theorem readCode_bare (extended : Bool) (digits : Nat) {text : List Char} (bare : text.head? ≠ some '\x7b') :
    readCode extended digits text =
      readHex extended digits 0 text >>= fun pair => (charOf? pair.1).map fun c => (c, pair.2) := by
  unfold readCode
  split
  · exact absurd rfl bare
  · cases readHex extended digits 0 text with
    | error error => rfl
    | ok pair =>
      obtain ⟨value, after⟩ := pair
      cases value? : charOf? value <;> simp [value?, Bind.bind, Except.bind, Except.map]

/-- Reading a code point is steady, but its braces may end behind the parenthesis at the end of the group. -/
theorem readCode_steady (extended : Bool) (digits : Nat) (text : List Char) :
    Steady past (readCode extended digits) text := by
  by_cases brace : text.head? = some '\x7b'
  · obtain ⟨rest, rfl⟩ := List.head?_eq_some_iff.mp brace
    exact ((readBraced_steady .badCode extended false rest).map_past bracedCode).cons
      fun text => readCode_brace extended digits text
  · refine ((readHex_steady extended digits 0 text).map charOf?).congr fun more ending => ?_
    exact readCode_bare extended digits (ending.head?_ne (by decide) brace)

/-- Dropping blanks is steady. -/
theorem dropBlanks_steady (text : List Char) :
    Steady never (fun text => .ok ((), text.dropWhile isBlank)) text := by
  induction text with
  | nil =>
    refine Steady.finish () rfl (Or.inl fun more closing => ?_)
    obtain ⟨tail, rfl, _⟩ := closing
    simp [isBlank_close]
  | cons c rest ih =>
    by_cases blank : isBlank c = true
    · exact ih.cons fun _ => by simp [blank]
    · exact Steady.stay () fun _ => by simp [blank]

/-- Decimal digits are read, and blanks and comments after a digit are passed over. -/
theorem readDigits_scanner (extended : Bool) : Scanner (readDigits extended) where
  done inComment value := rfl
  comment value c rest := by simp [readDigits]
  each value c := by
    by_cases digit : c.isDigit = true
    · exact Or.inr ⟨false, some (10 * value.getD 0 + (c.toNat - '0'.toNat)), fun rest => by
        simp only [readDigits, digit, if_true, if_false, Bool.false_eq_true]⟩
    by_cases blank : (extended && value.isSome && isBlank c) = true
    · exact Or.inr ⟨false, value, fun rest => by
        simp only [readDigits, digit, blank, if_true, if_false, Bool.false_eq_true]⟩
    by_cases mark : (extended && value.isSome && decide (c = '#')) = true
    · exact Or.inr ⟨true, value, fun rest => by
        simp only [readDigits, digit, blank, mark, if_true, if_false, Bool.false_eq_true]⟩
    · exact Or.inl fun rest => by
        simp only [readDigits, digit, blank, mark, if_false, Bool.false_eq_true]
  close value tail := by simp [readDigits, isBlank_close]

/-- The value of a bound, if there is one and it is not too great. -/
def boundOf? (value : Option Nat) : Except SyntaxError Nat :=
  -- A bound without digits is no bound.
  match value with
  | some value => if value ≤ maxCount then .ok value else .error .badCount
  | none => .error .badCount

/-- Reading a bound is steady. -/
theorem readCount_steady (extended : Bool) (text : List Char) : Steady never (readCount extended) text := by
  -- There are blanks, digits and blanks again.
  have digits : ∀ (_ : Unit) rest, Steady never (fun text => .ok (readDigits extended false none text)) rest :=
    fun _ => (readDigits_scanner extended).steady false none
  have bound : ∀ value rest, Steady never
      (fun text => boundOf? value >>= fun value => .ok (value, text.dropWhile isBlank)) rest := by
    intro value rest
    cases boundOf? value with
    | error error => exact Steady.of_outcome (.error error)
    | ok value => exact (dropBlanks_steady rest).map fun _ => .ok value
  refine (((dropBlanks_steady text).bind_never digits).bind_never bound).congr fun more _ => ?_
  unfold readCount
  simp only [Bind.bind, Except.bind]
  obtain ⟨value?, rest⟩ := readDigits extended false none ((text ++ more).dropWhile isBlank)
  cases value? with
  | none => rfl
  | some value => by_cases small : value ≤ maxCount <;> simp [boundOf?, small]

/-- Reads the brace that closes the bounds of a repetition, which have to be in order. -/
def closeBounds (low high : Nat) : Reader (Nat × Option Nat)
  | '\x7d' :: after => if low ≤ high then .ok ((low, some high), after) else .error .badCount
  | _ => .error .badCount

/-- Reads the upper bound of a repetition, if there is one, and the closing brace. -/
def readHigh (extended : Bool) (low : Nat) : Reader (Nat × Option Nat)
  | '\x7d' :: after => .ok ((low, none), after)
  | rest => readCount extended rest >>= fun pair => closeBounds low pair.1 pair.2

/-- Reads what stands after the lower bound of a repetition. -/
def readUpper (extended : Bool) (low : Nat) : Reader (Nat × Option Nat)
  | ',' :: rest => readHigh extended low (skipBlank extended rest)
  | rest => closeBounds low low rest

/-- Anything but a closing brace is read as an upper bound. -/
theorem readHigh_bound (extended : Bool) (low : Nat) {rest : List Char} (bound : rest.head? ≠ some '\x7d') :
    readHigh extended low rest = readCount extended rest >>= fun pair => closeBounds low pair.1 pair.2 := by
  unfold readHigh
  split
  · exact absurd rfl bound
  · rfl

/-- Without a comma the bounds end after the lower one. -/
theorem readUpper_single (extended : Bool) (low : Nat) {rest : List Char} (single : rest.head? ≠ some ',') :
    readUpper extended low rest = closeBounds low low rest := by
  unfold readUpper
  split
  · exact absurd rfl single
  · rfl

/-- Bounds that are not closed are no bounds. -/
theorem closeBounds_open (low high : Nat) {rest : List Char} (unclosed : rest.head? ≠ some '\x7d') :
    closeBounds low high rest = .error .badCount := by
  unfold closeBounds
  split
  · exact absurd rfl unclosed
  · rfl

/-- The bounds of a repetition are a lower bound and what stands after it. -/
theorem readBounds_eq (extended : Bool) (text : List Char) :
    (readBounds extended text).map (fun (low, high, rest) => ((low, high), rest)) =
      readCount extended (skipBlank extended text) >>= fun pair => readUpper extended pair.1 pair.2 := by
  -- The signs after the lower bound are told apart in the same order on both sides.
  unfold readBounds
  cases readCount extended (skipBlank extended text) with
  | error error => rfl
  | ok pair =>
    obtain ⟨low, rest⟩ := pair
    simp only [Bind.bind, Except.bind]
    split
    · simp [readUpper, closeBounds, Except.map]
    · rename_i rest
      simp only [readUpper]
      split
      · rename_i closed
        rw [closed]
        rfl
      · rename_i unclosed
        rw [readHigh_bound extended low (head?_ne_of_forall unclosed)]
        cases readCount extended (skipBlank extended rest) with
        | error error => rfl
        | ok pair =>
          obtain ⟨high, rest⟩ := pair
          simp only [Bind.bind, Except.bind]
          split
          · by_cases ordered : low ≤ high <;> simp [closeBounds, ordered, Except.map]
          · rename_i unclosed
            rw [closeBounds_open low high (head?_ne_of_forall unclosed)]
            rfl
    · rename_i unclosed single
      rw [readUpper_single extended low (head?_ne_of_forall single),
        closeBounds_open low low (head?_ne_of_forall unclosed)]
      rfl

/-- Reading the closing brace of a repetition is steady. -/
theorem closeBounds_steady (low high : Nat) (text : List Char) : Steady never (closeBounds low high) text := by
  refine Steady.sign (if low ≤ high then .ok (low, some high) else .error .badCount) (by decide) ?_
    (fun text => closeBounds_open low high) text
  intro text
  by_cases ordered : low ≤ high <;> simp [closeBounds, ordered, Except.map]

/-- Reading an upper bound is steady. -/
theorem readHigh_steady (extended : Bool) (low : Nat) (text : List Char) :
    Steady never (readHigh extended low) text := by
  by_cases brace : text.head? = some '\x7d'
  · obtain ⟨rest, rfl⟩ := List.head?_eq_some_iff.mp brace
    exact (Steady.of_outcome (.ok (low, none))).cons fun _ => rfl
  · refine ((readCount_steady extended text).bind_never (closeBounds_steady low)).congr fun more ending => ?_
    exact readHigh_bound extended low (ending.head?_ne (by decide) brace)

/-- Reading what stands after a lower bound is steady. -/
theorem readUpper_steady (extended : Bool) (low : Nat) (text : List Char) :
    Steady never (readUpper extended low) text := by
  by_cases comma : text.head? = some ','
  · obtain ⟨rest, rfl⟩ := List.head?_eq_some_iff.mp comma
    exact ((skipBlank_steady extended rest).bind_never fun _ => readHigh_steady extended low).cons fun _ => rfl
  · refine (closeBounds_steady low low text).congr fun more ending => ?_
    exact readUpper_single extended low (ending.head?_ne (by decide) comma)

/-- Reading the bounds of a repetition is steady. -/
theorem readBounds_steady (extended : Bool) (text : List Char) :
    Steady never (fun text => (readBounds extended text).map fun (low, high, rest) => ((low, high), rest))
      text := by
  have count := fun (_ : Unit) => readCount_steady extended
  refine (((skipBlank_steady extended text).bind_never count).bind_never (readUpper_steady extended)).congr ?_
  intro more _
  exact readBounds_eq extended (text ++ more)

/-- What comes after the name of a group comes after the first character. -/
theorem readName_suffix {first : Bool} {text name after : List Char} (done : readName first text = .ok (name, after)) :
    after <:+ text.tail := by
  induction text generalizing first name with
  | nil => cases done
  | cons c rest ih =>
    rw [readName] at done
    split at done
    · split at done
      · cases done
      · cases done
        exact List.suffix_refl _
    split at done
    · obtain ⟨⟨_, _⟩, later, last⟩ := bind_eq_ok done
      cases last
      exact (ih later).trans (List.tail_suffix rest)
    · cases done

/-- Reading the name of a group is steady, but the name may end behind the parenthesis at the end of the group. -/
theorem readName_steady (first : Bool) (text : List Char) : Steady past (readName first) text := by
  induction text generalizing first with
  | nil =>
    -- The name would go on with the parenthesis.
    exact Steady.nil rfl fun tail found rest done => readName_suffix done
  | cons c rest ih =>
    by_cases stop : c = '>'
    · subst stop
      cases first with
      | true => exact (Steady.of_outcome (.error .badName)).cons fun _ => rfl
      | false => exact (Steady.of_outcome (.ok [])).cons fun _ => rfl
    · -- Only some characters may stand in a name.
      by_cases named : isNameChar first c = true
      · refine ((ih false).map_past fun name => .ok (c :: name)).cons fun text => ?_
        simp only [readName, stop, named, if_true, if_false]
        cases readName false text <;> rfl
      · refine (Steady.of_outcome (.error .badName)).cons fun _ => ?_
        simp only [readName, stop, named, if_false, Bool.false_eq_true]
        rfl

/-- Reading flags is steady, but the parenthesis at the end of the group is taken for the end of the flags if
they have no other. -/
theorem readFlags_steady (list : FlagList) (text : List Char) :
    Steady past (fun text => (readFlags list text).map fun (list, stop, rest) => ((list, stop), rest))
      text := by
  induction text generalizing list with
  | nil =>
    -- The flags end at the parenthesis.
    refine Steady.nil rfl fun tail found rest done => ?_
    by_cases sign : list.seen.head? = some '-'
    · simp [readFlags, sign, Except.map] at done
    · simp [readFlags, sign, Except.map] at done
      exact done.2 ▸ List.suffix_refl tail
  | cons c rest ih =>
    -- The list ends, or a flag is read.
    by_cases stop : (c = ':' || c = ')') = true
    · by_cases sign : list.seen.head? = some '-'
      · refine (Steady.of_outcome (.error .badFlag)).cons fun _ => ?_
        simp only [readFlags, stop, sign, if_true, Except.map]
      · refine (Steady.of_outcome (.ok (list, c))).cons fun _ => ?_
        simp only [readFlags, stop, sign, if_true, if_false, Except.map]
    by_cases again : list.seen.contains c = true
    · refine (Steady.of_outcome (.error .badFlag)).cons fun _ => ?_
      simp only [readFlags, stop, again, if_true, if_false, Bool.false_eq_true, Except.map]
    by_cases sign : c = '-'
    · subst sign
      refine (ih { list with seen := '-' :: list.seen }).cons fun _ => ?_
      simp only [readFlags, stop, again, if_true, if_false, Bool.false_eq_true]
    · cases set? : list.flags.set? c (!list.seen.contains '-') with
      | none =>
        refine (Steady.of_outcome (.error .badFlag)).cons fun _ => ?_
        simp only [readFlags, stop, again, sign, set?, if_false, Bool.false_eq_true, Except.map]
      | some flags =>
        refine (ih ⟨flags, c :: list.seen⟩).cons fun _ => ?_
        simp only [readFlags, stop, again, sign, set?, if_false, Bool.false_eq_true]

end ModuleScope.Regex
