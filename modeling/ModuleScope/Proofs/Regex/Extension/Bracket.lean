import ModuleScope.Proofs.Regex.Extension.Escape
import ModuleScope.Regex.Bracket

/-! A bracketed class is read in the same way when the end of a group comes after the text: a bracket that closes a
class stands before that end, or the parenthesis belongs to the class. -/

namespace ModuleScope.Regex

open Unicode (isBlank CharSet)

/-- What is read of a class is lost if nothing of the text comes after it, so that no bracket of the text closes it. -/
def unclosed {α : Type} (tail : List Char) (_ : α) (rest : List Char) : Prop := rest <:+ ')' :: tail

/-- Reads the name of a class up to the colon and bracket after it, when the sign of negation has been read. -/
def readAsciiName (negated : Bool) (text : List Char) : Option (CharSet × Bool × List Char) :=
  match text.dropWhile (· ≠ ':') with
  | ':' :: ']' :: after =>
    (asciiClass? (String.ofList (text.takeWhile (· ≠ ':')))).map fun set => (set, negated, after)
  | _ => none

/-- The outcome of reading a named class. -/
def asciiOutcome (read : Option (CharSet × Bool × List Char)) :
    Except SyntaxError ((CharSet × Bool) × List Char) :=
  read.elim (.error .unclosedClass) fun (set, negated, after) => .ok ((set, negated), after)

/-- No colon stops the name of a class early. -/
theorem passes_of_not_mem {name : List Char} (bare : ':' ∉ name) :
    ∀ c ∈ name, decide (c ≠ ':') = true := by
  intro c member
  have other : c ≠ ':' := fun same => bare (same ▸ member)
  simp [other]

/-- Without a colon no name of a class is read. -/
theorem readAsciiName_none (negated : Bool) {text : List Char} (bare : ':' ∉ text) :
    readAsciiName negated text = none := by
  -- The search for the colon comes to the end of the text.
  have none : (text ++ []).dropWhile (fun c => decide (c ≠ ':')) = [] :=
    List.dropWhile_append_of_pos (passes_of_not_mem bare)
  rw [List.append_nil] at none
  rw [readAsciiName, none]

/-- Reads the bracket after the name of a class. -/
def closeAscii (negated : Bool) (name : List Char) : Reader (CharSet × Bool)
  | ']' :: after => (asciiClass? (String.ofList name)).elim (.error .unclosedClass) fun set =>
      .ok ((set, negated), after)
  | _ => .error .unclosedClass

/-- A name of a class is closed by nothing but a bracket. -/
theorem closeAscii_open (negated : Bool) (name : List Char) {text : List Char} (other : text.head? ≠ some ']') :
    closeAscii negated name text = .error .unclosedClass := by
  unfold closeAscii
  split
  · -- Only the first character is looked at.
    exact absurd rfl other
  · rfl

/-- A name of a class goes up to the first colon. -/
theorem readAsciiName_colon (negated : Bool) {name : List Char} (bare : ':' ∉ name) (text : List Char) :
    asciiOutcome (readAsciiName negated (name ++ ':' :: text)) = closeAscii negated name text := by
  have plain := passes_of_not_mem bare
  have stop : (':' :: text).dropWhile (fun c => decide (c ≠ ':')) = ':' :: text := rfl
  have whole : name ++ (':' :: text).takeWhile (fun c => decide (c ≠ ':')) = name := List.append_nil name
  rw [readAsciiName, List.dropWhile_append_of_pos plain, List.takeWhile_append_of_pos plain, stop, whole]
  -- A bracket must come next.
  by_cases bracket : text.head? = some ']'
  · obtain ⟨after, rfl⟩ := List.head?_eq_some_iff.mp bracket
    simp only [closeAscii]
    cases asciiClass? (String.ofList name) <;> rfl
  · rw [closeAscii_open negated name bracket]
    split
    · rename_i same
      cases (List.cons.inj same).2
      exact absurd rfl bracket
    · rfl

/-- Reading the bracket after the name of a class is steady. -/
theorem closeAscii_steady (negated : Bool) (name text : List Char) : Steady never (closeAscii negated name) text := by
  -- The bracket is a sign of one character, and the name decides what it closes.
  refine Steady.sign ((asciiClass? (String.ofList name)).elim (.error .unclosedClass) fun set =>
    .ok (set, negated)) (by decide) ?_ (fun text => closeAscii_open negated name) text
  intro text
  simp only [closeAscii]
  cases asciiClass? (String.ofList name) <;> rfl

/-- No class has a name with a parenthesis. -/
theorem asciiClass?_of_close {name : String} (close : ')' ∈ name.toList) : asciiClass? name = none := by
  unfold asciiClass?
  -- The names are few, and each of them is seen to have no parenthesis.
  split <;> first | rfl | exact absurd close (by decide)

/-- A name with a parenthesis is the name of no class, whether it is closed or not. -/
theorem closeAscii_of_close (negated : Bool) {name : List Char} (close : ')' ∈ name) (text : List Char) :
    closeAscii negated name text = .error .unclosedClass := by
  have unknown : asciiClass? (String.ofList name) = none := asciiClass?_of_close (by simpa using close)
  unfold closeAscii
  split
  · rw [unknown]
    rfl
  · rfl

/-- Without a colon no name of a class is read, even if one comes behind the parenthesis at the end of the group. -/
theorem readAsciiName_bare (negated : Bool) {text more : List Char} (bare : ':' ∉ text) (ending : Ending more) :
    asciiOutcome (readAsciiName negated (text ++ more)) = .error .unclosedClass := by
  rcases ending with rfl | ⟨tail, rfl, _⟩
  · rw [List.append_nil, readAsciiName_none negated bare]
    rfl
  -- What comes after the group might have a colon.
  by_cases colon : ':' ∈ tail
  · -- What stands before the colon has the parenthesis in it.
    obtain ⟨name, after, rfl, free⟩ := List.eq_append_cons_of_mem colon
    have whole : text ++ ')' :: (name ++ ':' :: after) = (text ++ ')' :: name) ++ ':' :: after := by simp
    rw [whole, readAsciiName_colon negated (by simp [bare, free]), closeAscii_of_close negated (by simp)]
  · rw [readAsciiName_none negated (by simp [bare, colon])]
    rfl

/-- Reading the name of a class is steady. -/
theorem readAsciiName_steady (negated : Bool) (text : List Char) :
    Steady never (fun text => asciiOutcome (readAsciiName negated text)) text := by
  -- Only what follows the first colon matters.
  by_cases colon : ':' ∈ text
  · obtain ⟨name, rest, rfl, bare⟩ := List.eq_append_cons_of_mem colon
    rw [List.append_cons]
    refine (closeAscii_steady negated name rest).append (name ++ [':']) fun more _ => ?_
    rw [← List.append_cons]
    exact readAsciiName_colon negated bare (rest ++ more)
  · refine (Steady.of_outcome (.error .unclosedClass)).congr fun more ending => ?_
    -- Without a colon no name can be read, whatever comes after the text.
    exact readAsciiName_bare negated colon ending

/-- A named class starts with a colon. -/
theorem readAsciiClass_none {text : List Char} (other : text.head? ≠ some ':') : readAsciiClass? text = none := by
  unfold readAsciiClass?
  split
  · exact absurd rfl other
  · rfl

/-- Without a sign of negation the name of a class follows the colon. -/
theorem readAsciiClass_plain {text : List Char} (plain : text.head? ≠ some '^') :
    readAsciiClass? (':' :: text) = readAsciiName false text := by
  simp only [readAsciiClass?, plain, decide_false, if_false]
  rfl

/-- Reading a named class is steady. -/
theorem readAsciiClass_steady (text : List Char) :
    Steady never (fun text => asciiOutcome (readAsciiClass? text)) text := by
  -- A named class starts with a colon, and a sign of negation may follow.
  by_cases colon : text.head? = some ':'
  · obtain ⟨rest, rfl⟩ := List.head?_eq_some_iff.mp colon
    by_cases negated : rest.head? = some '^'
    · obtain ⟨rest, rfl⟩ := List.head?_eq_some_iff.mp negated
      exact (readAsciiName_steady true rest).append [':', '^'] fun _ _ => rfl
    · refine (readAsciiName_steady false rest).cons_onward fun more ending => ?_
      rw [readAsciiClass_plain (ending.head?_ne (by decide) negated)]
  · refine (Steady.of_outcome (.error .unclosedClass)).congr fun more ending => ?_
    simp [readAsciiClass_none (ending.head?_ne (by decide) colon), asciiOutcome, Except.map]

/-- Hyphens are counted, and blanks and comments between them are passed over. -/
theorem readHyphens_scanner (extended : Bool) : Scanner (readHyphens extended) where
  done inComment count := rfl
  comment count c rest := by simp [readHyphens]
  each count c := by
    by_cases hyphen : c = '-'
    · exact Or.inr ⟨false, count + 1, fun rest => by simp [readHyphens, hyphen]⟩
    by_cases blank : (extended && isBlank c) = true
    · exact Or.inr ⟨false, count, fun rest => by
        simp only [readHyphens, hyphen, blank, if_true, if_false, Bool.false_eq_true]⟩
    by_cases mark : (extended && decide (c = '#')) = true
    · exact Or.inr ⟨true, count, fun rest => by
        simp only [readHyphens, hyphen, blank, mark, if_true, if_false, Bool.false_eq_true]⟩
    · -- Any other character ends the hyphens, wherever it stands.
      exact Or.inl fun rest => by
        simp only [readHyphens, hyphen, blank, mark, if_false, Bool.false_eq_true]
  -- The parenthesis is none of these.
  close count tail := by simp [readHyphens, isBlank_close]

/-- The class before its first item, when the hyphens at its start have been counted. -/
def firstItems (negated : Bool) (hyphens : Nat) : ClassLevel :=
  { negated, items := ⟨if hyphens = 0 then .empty else .single '-', 0⟩, count := hyphens }

/-- Reads the bracket that stands for itself at the start of a class. -/
def readFirst (negated : Bool) (hyphens : Nat) (text : List Char) : ClassLevel × List Char :=
  match text with
  | ']' :: rest =>
    if hyphens = 0 then ((firstItems negated hyphens).add ⟨.single ']', 0⟩, rest)
    else (firstItems negated hyphens, text)
  | _ => (firstItems negated hyphens, text)

/-- Reads the start of a class after the sign of negation. -/
def readStart (flags : Flags) (negated : Bool) (text : List Char) : ClassLevel × List Char :=
  let (hyphens, text) := readHyphens flags.extended false 0 text
  readFirst negated hyphens text

/-- A class starts with the sign of negation, hyphens and a bracket, each of which may be missing. -/
theorem openClass_eq (flags : Flags) (text : List Char) :
    openClass flags text =
      if (skipBlank flags.extended text).head? = some '^' then
        readStart flags true (skipBlank flags.extended ((skipBlank flags.extended text).drop 1))
      else readStart flags false (skipBlank flags.extended text) := by
  unfold openClass
  split
  · rename_i negated
    simp only [negated, decide_true, if_true]
    rfl
  · rename_i plain
    simp only [plain, decide_false, if_false]
    rfl

/-- Reading the bracket at the start of a class is steady. -/
theorem readFirst_steady (negated : Bool) (hyphens : Nat) (text : List Char) :
    Steady never (fun text => .ok (readFirst negated hyphens text)) text := by
  -- A bracket at the very start stands for itself.
  by_cases bracket : text.head? = some ']' ∧ hyphens = 0
  · obtain ⟨first, rfl⟩ := bracket
    obtain ⟨rest, rfl⟩ := List.head?_eq_some_iff.mp first
    exact (Steady.of_outcome (.ok ((firstItems negated 0).add ⟨.single ']', 0⟩))).cons fun _ => rfl
  · refine (Steady.of_outcome (.ok (firstItems negated hyphens))).congr fun more ending => ?_
    have other : ¬((text ++ more).head? = some ']' ∧ hyphens = 0) := by
      intro both
      exact ending.head?_ne (by decide) (fun same => bracket ⟨same, both.2⟩) both.1
    unfold readFirst
    split
    · rename_i rest same
      -- The text may start with a bracket behind hyphens, and that is left where it is.
      rw [same] at other
      simp only [List.head?_cons, true_and] at other
      simp [other, same, Except.map]
    · rfl

/-- Reading the start of a class is steady. -/
theorem openClass_steady (flags : Flags) (text : List Char) :
    Steady never (fun text => .ok (openClass flags text)) text := by
  have start : ∀ negated text, Steady never (fun text => .ok (readStart flags negated text)) text :=
    fun negated text =>
      ((readHyphens_scanner flags.extended).steady false 0 text).bind_never (readFirst_steady negated)
  -- After the blanks there may be a sign of negation.
  have signed : ∀ (_ : Unit) text, Steady never (fun text => .ok (if text.head? = some '^' then
      readStart flags true (skipBlank flags.extended (text.drop 1)) else readStart flags false text)) text := by
    intro _ text
    by_cases negated : text.head? = some '^'
    · obtain ⟨rest, rfl⟩ := List.head?_eq_some_iff.mp negated
      exact ((skipBlank_steady flags.extended rest).bind_never fun _ => start true).cons fun _ => rfl
    · refine (start false text).congr fun more ending => ?_
      rw [if_neg (ending.head?_ne (by decide) negated)]
  refine ((skipBlank_steady flags.extended text).bind_never signed).congr fun more _ => ?_
  rw [openClass_eq]
  rfl

/-- Reading an item after its first character is steady. -/
theorem readItem_cons_steady (flags : Flags) (c : Char) (rest : List Char) :
    Steady (lostAtom flags.extended) (fun rest => readItem flags (c :: rest)) rest := by
  by_cases slash : c = '\\'
  · subst slash
    -- Only an escape has more than one character.
    exact readEscape_steady flags rest
  · refine (Steady.of_outcome (.ok (.char c false))).congr fun more _ => ?_
    simp [readItem, Except.map]

/-- Reading an item is steady, but the parenthesis at the end of the group is taken for an item. -/
theorem readItem_steady (flags : Flags) (text : List Char) :
    Steady (lostAtom flags.extended) (readItem flags) text := by
  cases text with
  | nil =>
    refine Steady.nil rfl fun tail found rest done => ?_
    cases done
    -- At the end of the text the parenthesis is the next character.
    exact Or.inl (List.suffix_refl _)
  | cons c rest => exact (readItem_cons_steady flags c rest).cons fun _ => rfl

/-- Whether a hyphen after an item, and not the end of the class or another hyphen, starts a range. -/
def startsRange (extended : Bool) (text : List Char) : Bool :=
  match text with
  | '-' :: more =>
    let next := afterHyphen? extended more
    next ≠ some ']' && next ≠ some '-'
  | _ => false

/-- Blanks are dropped from the front of a text and not from the end of a group after it. -/
theorem dropBlanks_append (text : List Char) {more : List Char} (ending : Ending more) :
    (text ++ more).dropWhile isBlank = text.dropWhile isBlank ++ more := by
  rcases ending with rfl | ⟨tail, rfl, _⟩
  · simp
  · -- The parenthesis is no blank.
    rw [List.dropWhile_append]
    -- If all of the text is blank the parenthesis is left.
    split
    · rename_i none
      rw [List.isEmpty_iff.mp none, List.dropWhile_cons_of_neg (by simp [isBlank_close])]
      rfl
    · rfl

/-- After an expression the first character can only turn from none into the parenthesis. -/
theorem head?_append_ending (text : List Char) {more : List Char} (ending : Ending more) :
    (text ++ more).head? = text.head? ∨ text.head? = none ∧ (text ++ more).head? = some ')' := by
  cases text with
  | cons c rest => exact Or.inl rfl
  | nil =>
    rcases ending with rfl | ⟨tail, rfl, _⟩
    · exact Or.inl rfl
    · exact Or.inr ⟨rfl, rfl⟩

/-- The first character, one sign of a comment and the blanks after it being passed over. -/
def afterMark (text : List Char) : Option Char :=
  match text with
  | '#' :: rest => (rest.dropWhile isBlank).head?
  | rest => rest.head?

/-- Without the sign of a comment nothing is passed over. -/
theorem afterMark_plain {text : List Char} (plain : text.head? ≠ some '#') : afterMark text = text.head? := by
  unfold afterMark
  split
  · exact absurd rfl plain
  · rfl

/-- After an expression the character after a hyphen can only turn from none into the parenthesis. -/
theorem afterHyphen_append (extended : Bool) (text : List Char) {more : List Char} (ending : Ending more) :
    afterHyphen? extended (text ++ more) = afterHyphen? extended text ∨
      afterHyphen? extended text = none ∧ afterHyphen? extended (text ++ more) = some ')' := by
  cases extended with
  -- Outside the extended notation it is simply the next character.
  | false => exact head?_append_ending text ending
  | true =>
    have marked : ∀ text, afterHyphen? true text = afterMark (text.dropWhile isBlank) := fun _ => rfl
    rw [marked, marked, dropBlanks_append text ending]
    -- A comment may come between the hyphen and the character.
    by_cases mark : (text.dropWhile isBlank).head? = some '#'
    · obtain ⟨rest, same⟩ := List.head?_eq_some_iff.mp mark
      simp only [same, List.cons_append, afterMark, dropBlanks_append rest ending]
      exact head?_append_ending _ ending
    · rw [afterMark_plain mark, afterMark_plain (ending.head?_ne (by decide) mark)]
      exact head?_append_ending _ ending

/-- What comes after an expression does not change whether a hyphen in it starts a range. -/
theorem startsRange_append (extended : Bool) (text : List Char) {more : List Char} (ending : Ending more) :
    startsRange extended (text ++ more) = startsRange extended text := by
  by_cases hyphen : text.head? = some '-'
  · -- A parenthesis after the hyphen is no bracket and no other hyphen, just as nothing is.
    obtain ⟨rest, rfl⟩ := List.head?_eq_some_iff.mp hyphen
    simp only [startsRange, List.cons_append]
    rcases afterHyphen_append extended rest ending with same | ⟨none, close⟩
    · rw [same]
    · rw [none, close]
      decide
  · -- Without a hyphen there is no range.
    have plain : ∀ text : List Char, text.head? ≠ some '-' → startsRange extended text = false := by
      intro text other
      unfold startsRange
      split
      · exact absurd rfl other
      · rfl
    rw [plain _ hyphen, plain _ (ending.head?_ne (by decide) hyphen)]

/-- The characters of a range, or a failure. -/
def rangeOf (flags : Flags) (first last : Atom) : Except SyntaxError ClassPart :=
  match first, last with
  | .char low lowByte, .char high highByte => do
    if high.toNat < low.toNat then .error .badRange
    else
      let low ← classCode flags low lowByte
      let high ← classCode flags high highByte
      .ok ⟨⟨[(low, high)]⟩, 0⟩
  | _, _ => .error .badRange

/-- The characters of a single item, or a failure. -/
def itemOf (flags : Flags) (item : Atom) : Except SyntaxError ClassPart :=
  match item with
  | .char c byte => do .ok ⟨.ofCode (← classCode flags c byte), 0⟩
  | .oneOf set => .ok ⟨set, 0⟩
  | .assert _ => .error .notInClass

/-- The characters of a range are found before the text after the range is put beside them. -/
theorem rangeOf_map (flags : Flags) (first last : Atom) (rest : List Char) :
    (match first, last with
      | .char low lowByte, .char high highByte =>
        if high.toNat < low.toNat then .error .badRange
        else do
          let low ← classCode flags low lowByte
          let high ← classCode flags high highByte
          .ok (⟨⟨[(low, high)]⟩, 0⟩, rest)
      | _, _ => .error .badRange) = (rangeOf flags first last).map fun part => (part, rest) := by
  cases first with
  | oneOf set => rfl
  | assert assertion => rfl
  | char low lowByte =>
    cases last with
    | oneOf set => rfl
    | assert assertion => rfl
    | char high highByte =>
      simp only [rangeOf]
      -- Both ends are looked up before anything is put beside them.
      split
      · rfl
      · cases classCode flags low lowByte with
        | error error => rfl
        | ok low => cases classCode flags high highByte <;> rfl

/-- Reads what follows an item of a class, blanks having been dropped: the rest of a range, or nothing. -/
def readRangeEnd (flags : Flags) (first : Atom) (text : List Char) : Except SyntaxError (ClassPart × List Char) :=
  if text.isEmpty then .error .unclosedClass
  else if startsRange flags.extended text then
    readItem flags (skipBlank flags.extended (text.drop 1)) >>= fun pair =>
      (rangeOf flags first pair.1).map fun part => (part, pair.2)
  else (itemOf flags first).map fun part => (part, text)

/-- A range is an item and what follows it. -/
theorem readRange_eq (flags : Flags) (text : List Char) :
    readRange flags text =
      readItem flags text >>= fun pair =>
        readRangeEnd flags pair.1 (skipBlank flags.extended pair.2) := by
  unfold readRange
  -- An item comes first in any case.
  cases readItem flags text with
  | error error => rfl
  | ok pair =>
    obtain ⟨first, rest⟩ := pair
    simp only [Bind.bind, Except.bind, readRangeEnd]
    -- What comes after the first item decides whether there is a range.
    generalize skipBlank flags.extended rest = rest
    change (if rest.isEmpty = true then _ else if startsRange flags.extended rest = true then _ else _) = _
    split
    · rfl
    split
    · cases readItem flags (skipBlank flags.extended (rest.drop 1)) with
      | error error => rfl
      | ok pair => exact rangeOf_map flags first pair.1 pair.2
    · cases first with
      | oneOf set => rfl
      | assert assertion => rfl
      | char c byte =>
        simp only [itemOf]
        cases classCode flags c byte <;> rfl

/-- A condition is no end of a range. -/
theorem rangeOf_assert {flags : Flags} {first : Atom} {assertion : Assertion} {part : ClassPart} :
    rangeOf flags first (.assert assertion) ≠ .ok part := by
  intro done
  -- Whatever the first item is, a range ends with a character.
  cases first <;> cases done

/-- Reading what follows an item is steady, but an item at the end of the text may be read only before the parenthesis
at the end of the group. -/
theorem readRangeEnd_steady (flags : Flags) (first : Atom) (text : List Char) :
    Steady unclosed (readRangeEnd flags first) text := by
  cases text with
  | nil =>
    -- The parenthesis starts no range.
    refine Steady.nil rfl fun tail found rest done => ?_
    have single : readRangeEnd flags first (')' :: tail) =
      (itemOf flags first).map fun part => (part, ')' :: tail) := rfl
    obtain ⟨_, rfl⟩ := map_eq_ok (single.symm.trans done)
    exact List.suffix_refl _
  | cons c rest =>
    have stays : ∀ more, Ending more → startsRange flags.extended (c :: (rest ++ more)) =
      startsRange flags.extended (c :: rest) := fun more => startsRange_append flags.extended (c :: rest)
    -- If a range starts its end is read as well.
    by_cases range : startsRange flags.extended (c :: rest) = true
    · have last := (skipBlank_steady flags.extended rest).bind_never fun _ => readItem_steady flags
      have whole : Steady unclosed (fun text =>
          (Except.ok ((), skipBlank flags.extended text) >>= fun pair => readItem flags pair.2) >>= fun pair =>
            (rangeOf flags first pair.1).map fun part => (part, pair.2)) rest := by
        refine last.bind (fun last _ => Steady.of_outcome (rangeOf flags first last)) ?_
        -- What was lost with the item is lost with the range, or the item was none.
        intro tail last rest' lost part after done
        obtain ⟨made, rfl⟩ := map_eq_ok done
        rcases lost with behind | ⟨⟨assertion, rfl⟩, _⟩
        · exact behind.trans (List.suffix_cons _ tail)
        · exact absurd made rangeOf_assert
      refine whole.cons_onward fun more ending => ?_
      simp only [readRangeEnd, List.isEmpty_cons, Bool.false_eq_true, stays more ending, range, if_true, if_false]
      rfl
    · refine (Steady.of_outcome (itemOf flags first)).congr fun more ending => ?_
      simp only [List.cons_append, readRangeEnd, List.isEmpty_cons, Bool.false_eq_true, stays more ending, range,
        if_false]

/-- What follows an item that is lost is lost, too. -/
theorem readRangeEnd_lost {flags : Flags} {first : Atom} {tail rest after : List Char} {part : ClassPart}
    (lost : lostAtom flags.extended tail first rest)
    (done : readRangeEnd flags first (skipBlank flags.extended rest) = .ok (part, after)) :
    unclosed tail part after := by
  have behind : rest <:+ tail → unclosed tail part after := by
    intro behind
    have suffix := ((readRangeEnd_steady flags first _).suffix done).trans (skipBlank_suffix flags.extended rest)
    exact (suffix.trans behind).trans (List.suffix_cons _ tail)
  rcases lost with left | ⟨⟨assertion, rfl⟩, left | ⟨inner, rfl, _⟩⟩
  · exact behind left
  · exact behind left
  · -- A condition cannot stand before the braces.
    rw [skipBlank_brace] at done
    cases done

/-- Reading a range or an item after its first character is steady, but it may be read only before the parenthesis at
the end of the group. -/
theorem readRange_steady (flags : Flags) (c : Char) (rest : List Char) :
    Steady unclosed (fun rest => readRange flags (c :: rest)) rest := by
  -- The item is read first, and then what follows it.
  have after : ∀ first rest, Steady unclosed
      (fun rest => readRangeEnd flags first (skipBlank flags.extended rest)) rest := fun first rest =>
    (skipBlank_steady flags.extended rest).bind_never fun _ => readRangeEnd_steady flags first
  refine ((readItem_cons_steady flags c rest).bind after ?_).congr fun more _ => readRange_eq flags _
  intro tail first rest lost part after done
  exact readRangeEnd_lost lost done

/-- A class that has been read, or what has been read of it. -/
inductive ClassProgress
  /-- The class is closed. -/
  | closed (part : ClassPart)
  /-- The class goes on at some level of brackets. -/
  | within (level : ClassLevel) (outer : List ClassLevel)

/-- Reads from a class once, blanks having been dropped. -/
def classRound (flags : Flags) (level : ClassLevel) (outer : List ClassLevel) (c : Char) (rest : List Char) :
    Except SyntaxError (ClassProgress × List Char) :=
  match c, rest with
  | '[', rest =>
    match readAsciiClass? rest with
    | some (set, negated, after) => do
      let set ← closeClass flags negated set
      .ok (.within (level.add ⟨set, 0⟩) outer, after)
    | none =>
      let (inner, after) := openClass flags rest
      .ok (.within inner (level :: outer), after)
  | ']', rest => do
    let part ← level.close flags
    match outer with
    | [] => .ok (.closed part, rest)
    | above :: outer => .ok (.within (above.add part) outer, rest)
  | '&', '&' :: rest => .ok (.within (level.operate flags .inter) outer, rest)
  | '-', '-' :: rest => .ok (.within (level.operate flags .diff) outer, rest)
  | '~', '~' :: rest => .ok (.within (level.operate flags .symmDiff) outer, rest)
  | c, rest => do
    let (item, after) ← readRange flags (c :: rest)
    .ok (.within (level.add item) outer, after)

/-- Whether a range or an item comes next, and no bracket and no operation. -/
def startsItem (c : Char) (rest : List Char) : Prop :=
  c ≠ '[' ∧ c ≠ ']' ∧ ∀ sign ∈ ['&', '-', '~'], c = sign → rest.head? ≠ some sign

/-- Any other text is read as a range or an item. -/
theorem classRound_item (flags : Flags) (level : ClassLevel) (outer : List ClassLevel) {c : Char}
    {rest : List Char} (item : startsItem c rest) :
    classRound flags level outer c rest = readRange flags (c :: rest) >>= fun pair =>
      (Except.ok (.within (level.add pair.1) outer)).map fun progress => (progress, pair.2) := by
  obtain ⟨opens, closes, signs⟩ := item
  unfold classRound
  split
  · -- The other kinds of rounds are excluded one by one.
    exact absurd rfl opens
  · exact absurd rfl closes
  · exact absurd rfl (signs '&' (by decide) rfl)
  · exact absurd rfl (signs '-' (by decide) rfl)
  · exact absurd rfl (signs '~' (by decide) rfl)
  · rfl

/-- A class is read in rounds. -/
theorem readClassFrom_succ (flags : Flags) (fuel : Nat) (level : ClassLevel) (outer : List ClassLevel)
    (text : List Char) :
    readClassFrom flags (fuel + 1) level outer text =
      match skipBlank flags.extended text with
      | [] => .error .unclosedClass
      | c :: rest => classRound flags level outer c rest >>= fun pair =>
        match pair.1 with
        | .closed part => .ok (part, pair.2)
        | .within level outer => readClassFrom flags fuel level outer pair.2 := by
  rw [readClassFrom]
  generalize skipBlank flags.extended text = text
  split
  · rfl
  · -- A bracket opens a named class or an ordinary one.
    rename_i rest
    simp only [classRound]
    cases readAsciiClass? rest with
    | none => rfl
    | some read =>
      obtain ⟨set, negated, after⟩ := read
      simp only [Bind.bind, Except.bind]
      cases closeClass flags negated set <;> rfl
  · simp only [classRound, Bind.bind, Except.bind]
    -- A closing bracket ends the class or one level of it.
    cases level.close flags with
    | error error => rfl
    | ok part => cases outer <;> rfl
  · rfl
  · rfl
  · rfl
  · rename_i none opens closes both first second
    cases text with
    | nil => exact absurd rfl none
    | cons c rest =>
      -- What the other rounds start with is not there.
      have item : startsItem c rest := by
        refine ⟨fun same => opens rest (by rw [same]), fun same => closes rest (by rw [same]), ?_⟩
        intro sign member same next
        obtain ⟨after, rfl⟩ := List.head?_eq_some_iff.mp next
        subst same
        simp only [List.mem_cons, List.not_mem_nil, or_false] at member
        rcases member with rfl | rfl | rfl
        · exact both after rfl
        · exact first after rfl
        · exact second after rfl
      simp only [classRound_item flags level outer item]
      cases readRange flags (c :: rest) <;> rfl

/-- What comes after an expression does not change whether an item comes next in a class. -/
theorem startsItem_append {c : Char} {rest more : List Char} (item : startsItem c rest) (ending : Ending more) :
    startsItem c (rest ++ more) := by
  refine ⟨item.1, item.2.1, fun sign member same => ?_⟩
  have noClose : sign ≠ ')' := by
    intro same
    subst same
    revert member
    decide
  exact ending.head?_ne noClose (item.2.2 sign member same)

/-- Adds a named class, which may be negated, to a level. -/
def addNamed (flags : Flags) (level : ClassLevel) (outer : List ClassLevel) (named : CharSet × Bool) :
    Reader ClassProgress := fun text =>
  ((closeClass flags named.2 named.1).map fun set => .within (level.add ⟨set, 0⟩) outer).map fun progress =>
    (progress, text)

/-- An opening bracket starts a named class or else an ordinary one. -/
theorem classRound_opens (flags : Flags) (level : ClassLevel) (outer : List ClassLevel) (text : List Char) :
    classRound flags level outer '[' text =
      orElse (asciiOutcome (readAsciiClass? text)) (addNamed flags level outer)
        (.ok (.within (openClass flags text).1 (level :: outer), (openClass flags text).2)) := by
  simp only [classRound]
  cases readAsciiClass? text with
  | none => rfl
  | some read =>
    -- A named class is added to the level that it stands in.
    obtain ⟨set, negated, after⟩ := read
    simp only [asciiOutcome, Option.elim_some, orElse, addNamed, Bind.bind, Except.bind]
    cases closeClass flags negated set <;> rfl

/-- The state of a class after its closing bracket, `outer` being the levels around it. -/
def closeLevel (part : ClassPart) (outer : List ClassLevel) : ClassProgress :=
  match outer with
  | [] => .closed part
  | above :: outer => .within (above.add part) outer

/-- A closing bracket ends a level. -/
theorem classRound_closes (flags : Flags) (level : ClassLevel) (outer : List ClassLevel) (text : List Char) :
    classRound flags level outer ']' text =
      ((level.close flags).map fun part => closeLevel part outer).map fun progress => (progress, text) := by
  simp only [classRound]
  cases level.close flags with
  | error error => rfl
  | ok part => cases outer <;> rfl

/-- The class is not closed yet, and nothing of the text comes that could close it. -/
def stuck (tail : List Char) (progress : ClassProgress) (rest : List Char) : Prop :=
  (∃ level outer, progress = .within level outer) ∧ rest <:+ ')' :: tail

/-- Reading from a class once is steady, but without the end of the group the class may be stuck. -/
theorem classRound_steady (flags : Flags) (level : ClassLevel) (outer : List ClassLevel) (c : Char)
    (rest : List Char) : Steady stuck (classRound flags level outer c) rest := by
  -- Each kind of round is told by its first characters.
  by_cases opens : c = '['
  · subst opens
    have named : ∀ value rest, Steady stuck (addNamed flags level outer value) rest :=
      fun value _ => Steady.of_outcome _
    have plain : Steady stuck (fun text =>
        .ok (.within (openClass flags text).1 (level :: outer), (openClass flags text).2)) rest :=
      (openClass_steady flags rest).map fun inner => .ok (ClassProgress.within inner (level :: outer))
    refine ((readAsciiClass_steady rest).prefer named plain).congr fun more _ => ?_
    exact classRound_opens flags level outer (rest ++ more)
  by_cases closes : c = ']'
  · subst closes
    -- A closing bracket is read alone.
    refine (Steady.of_outcome ((level.close flags).map fun part => closeLevel part outer)).congr ?_
    exact fun more _ => classRound_closes flags level outer (rest ++ more)
  -- Operations are written with two signs.
  by_cases sign : c ∈ ['&', '-', '~'] ∧ rest.head? = some c
  · obtain ⟨member, next⟩ := sign
    obtain ⟨rest, rfl⟩ := List.head?_eq_some_iff.mp next
    simp only [List.mem_cons, List.not_mem_nil, or_false] at member
    rcases member with rfl | rfl | rfl
    · exact (Steady.of_outcome (.ok (ClassProgress.within (level.operate flags .inter) outer))).cons fun _ => rfl
    · exact (Steady.of_outcome (.ok (ClassProgress.within (level.operate flags .diff) outer))).cons fun _ => rfl
    · exact (Steady.of_outcome (.ok (ClassProgress.within (level.operate flags .symmDiff) outer))).cons fun _ => rfl
  · have item : startsItem c rest := by
      refine ⟨opens, closes, fun sign' member same next => sign ⟨same ▸ member, same ▸ next⟩⟩
    have added : ∀ (part : ClassPart) rest, Steady stuck (fun text =>
        (Except.ok (ClassProgress.within (level.add part) outer)).map fun progress => (progress, text)) rest :=
      fun part _ => Steady.of_outcome _
    refine ((readRange_steady flags c rest).bind added ?_).congr fun more ending => ?_
    · intro tail part rest open' progress after done
      obtain ⟨same, rfl⟩ := map_eq_ok done
      exact ⟨⟨_, _, (Except.ok.inj same).symm⟩, open'⟩
    · exact classRound_item flags level outer (startsItem_append item ending)

/-- Only a closing bracket closes a class, and it is all that is read then. -/
theorem classRound_closed {flags : Flags} {level : ClassLevel} {outer : List ClassLevel} {c : Char}
    {rest after : List Char} {part : ClassPart}
    (done : classRound flags level outer c rest = .ok (.closed part, after)) : c = ']' ∧ after = rest := by
  -- All other rounds go on inside the class.
  by_cases closes : c = ']'
  · subst closes
    rw [classRound_closes] at done
    exact ⟨rfl, (map_eq_ok done).2.symm⟩
  exfalso
  -- The rounds that are left to go through do not close anything.
  unfold classRound at done
  split at done
  · split at done
    · rename_i set negated after _
      cases outcome : closeClass flags negated set <;> rw [outcome] at done <;> cases done
    · cases done
  · exact closes rfl
  · cases done
  · cases done
  · cases done
  · cases outcome : readRange flags (c :: rest) <;> rw [outcome] at done <;> cases done

/-- A class ends with the bracket before the text that is left. -/
theorem readClassFrom_bracket {flags : Flags} {fuel : Nat} {level : ClassLevel} {outer : List ClassLevel}
    {text rest : List Char} {part : ClassPart}
    (done : readClassFrom flags fuel level outer text = .ok (part, rest)) : ']' :: rest <:+ text := by
  induction fuel generalizing level outer text with
  | zero => cases done
  | succ fuel ih =>
    -- The induction is on the rounds; the last one reads the bracket.
    rw [readClassFrom_succ] at done
    have suffix := skipBlank_suffix flags.extended text
    cases next : skipBlank flags.extended text with
    | nil =>
      rw [next] at done
      cases done
    | cons c rest =>
      -- The bracket is this character, or it stands in what is left after the round.
      simp only [next] at done
      rw [next] at suffix
      cases outcome : classRound flags level outer c rest with
      | error error =>
        rw [outcome] at done
        cases done
      | ok pair =>
        obtain ⟨progress, after⟩ := pair
        rw [outcome] at done
        cases progress with
        | closed part =>
          obtain ⟨rfl, rfl⟩ := classRound_closed outcome
          cases done
          exact suffix
        | within level outer =>
          have within := (classRound_steady _ _ _ _ _).suffix outcome
          exact ((ih done).trans within).trans ((List.suffix_cons c _).trans suffix)

/-- A class that is stuck is read past the parenthesis at the end of the group, if at all. -/
theorem readClassFrom_stuck {flags : Flags} {fuel : Nat} {level : ClassLevel} {outer : List ClassLevel}
    {tail text rest : List Char} {part : ClassPart} (open' : text <:+ ')' :: tail)
    (done : readClassFrom flags fuel level outer text = .ok (part, rest)) : rest <:+ tail := by
  -- The closing bracket is not the parenthesis.
  rcases List.suffix_cons_iff.mp ((readClassFrom_bracket done).trans open') with same | inside
  · cases same
  · exact (List.suffix_cons _ rest).trans inside

/-- More rounds than there are characters change nothing. -/
theorem readClassFrom_enough (flags : Flags) {fuel more : Nat} (level : ClassLevel) (outer : List ClassLevel)
    {text : List Char} (enough : text.length < fuel) (also : text.length < more) :
    readClassFrom flags fuel level outer text = readClassFrom flags more level outer text := by
  induction fuel generalizing level outer text more with
  -- Both counts of rounds are used up at the same pace.
  | zero => exact absurd enough (Nat.not_lt_zero _)
  | succ fuel ih =>
    obtain ⟨more, rfl⟩ : ∃ less, more = less + 1 := ⟨more - 1, by omega⟩
    rw [readClassFrom_succ, readClassFrom_succ]
    have shorter := (skipBlank_suffix flags.extended text).length_le
    cases next : skipBlank flags.extended text with
    | nil => rfl
    | cons c rest =>
      rw [next, List.length_cons] at shorter
      simp only
      cases outcome : classRound flags level outer c rest with
      | error error => rfl
      | ok pair =>
        obtain ⟨progress, after⟩ := pair
        -- The round leaves less of the text, so there are enough rounds for it.
        have left := ((classRound_steady _ _ _ _ _).suffix outcome).length_le
        cases progress with
        | closed part => rfl
        | within level outer =>
          show readClassFrom flags fuel level outer after = readClassFrom flags more level outer after
          exact ih level outer (by omega) (by omega)

/-- Reads a class to its closing bracket, in as many rounds as it takes. -/
def readClassRest (flags : Flags) (level : ClassLevel) (outer : List ClassLevel) : Reader ClassPart :=
  fun text => readClassFrom flags (text.length + 1) level outer text

/-- What is read after a round. -/
def afterRound (flags : Flags) (progress : ClassProgress) : Reader ClassPart := fun text =>
  match progress with
  | .closed part => .ok (part, text)
  | .within level outer => readClassRest flags level outer text

/-- Reads a class to its closing bracket, when blanks have been dropped. -/
def readRounds (flags : Flags) (level : ClassLevel) (outer : List ClassLevel) : Reader ClassPart
  | [] => .error .unclosedClass
  | c :: rest => classRound flags level outer c rest >>= fun pair => afterRound flags pair.1 pair.2

/-- A class is read in rounds, blanks being dropped before each. -/
theorem readClassRest_eq (flags : Flags) (level : ClassLevel) (outer : List ClassLevel) (text : List Char) :
    readClassRest flags level outer text = readRounds flags level outer (skipBlank flags.extended text) := by
  rw [readClassRest, readClassFrom_succ]
  have shorter := (skipBlank_suffix flags.extended text).length_le
  cases next : skipBlank flags.extended text with
  | nil => rfl
  | cons c rest =>
    rw [next, List.length_cons] at shorter
    simp only [readRounds]
    cases outcome : classRound flags level outer c rest with
    | error error => rfl
    | ok pair =>
      obtain ⟨progress, after⟩ := pair
      -- The rounds that are left are enough for the rest.
      have left := ((classRound_steady _ _ _ _ _).suffix outcome).length_le
      cases progress with
      | closed part => rfl
      | within level outer =>
        show readClassFrom flags text.length level outer after = readClassRest flags level outer after
        exact readClassFrom_enough flags level outer (by omega) (by omega)

/-- Reading a class to its closing bracket is steady, but the bracket may stand behind the parenthesis at the end of
the group. -/
theorem readClassRest_steady (flags : Flags) (level : ClassLevel) (outer : List ClassLevel) (text : List Char) :
    Steady past (readClassRest flags level outer) text := by
  -- A round leaves less of the text, so the claim may be used for what is left.
  induction size : text.length using Nat.strongRecOn generalizing level outer text with
  | ind size ih =>
    subst size
    have rounds : ∀ (_ : Unit) rest, rest <:+ text → Steady past (readRounds flags level outer) rest := by
      intro _ rest shorter
      cases rest with
      | nil =>
        -- The class goes on with the parenthesis.
        refine Steady.nil rfl fun tail part rest done => ?_
        have whole : readClassRest flags level outer (')' :: tail) = .ok (part, rest) := by
          rw [readClassRest_eq, skipBlank_close]
          exact done
        exact readClassFrom_stuck (List.suffix_refl _) whole
      | cons c rest =>
        have after : ∀ progress left, left <:+ rest → Steady past (afterRound flags progress) left := by
          intro progress left ending
          cases progress with
          | closed part => exact Steady.of_outcome (.ok part)
          | within level outer =>
            have whole := shorter.length_le
            rw [List.length_cons] at whole
            have less : left.length < text.length := by
              have part := ending.length_le
              omega
            exact ih left.length less level outer left rfl
        refine ((classRound_steady flags level outer c rest).bind_within after ?_).cons fun _ => rfl
        -- A class that is stuck is closed behind the parenthesis.
        intro tail progress left stuck part rest' done
        obtain ⟨⟨level, outer, rfl⟩, open'⟩ := stuck
        exact readClassFrom_stuck open' done
    refine ((skipBlank_steady flags.extended text).bind_within rounds fun _ _ _ lost => lost.elim).congr ?_
    intro more _
    exact readClassRest_eq flags level outer (text ++ more)

/-- Reading a class is steady, but it may be closed behind the parenthesis at the end of the group. -/
theorem readClass_steady (flags : Flags) (text : List Char) : Steady past (readClass flags) text := by
  refine ((openClass_steady flags text).bind_never fun level => readClassRest_steady flags level []).congr ?_
  intro more _
  have shorter := ((openClass_steady flags (text ++ more)).suffix rfl).length_le
  exact readClassFrom_enough flags _ [] (Nat.lt_succ_of_le shorter) (Nat.lt_succ_self _)

end ModuleScope.Regex
