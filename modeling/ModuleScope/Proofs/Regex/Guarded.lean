import ModuleScope.Proofs.Regex.Steps
import ModuleScope.Proofs.Unicode.Folding

/-! What is read of a text whose dots and backslashes are protected never stands for a sign of the notation. -/

namespace ModuleScope

open Unicode (CharSet)

namespace Regex

/-- Dots and backslashes stand behind backslashes, and there are no stars and opening brackets. -/
inductive Guarded : List Char → Prop
  /-- The empty text. -/
  | nil : Guarded []
  /-- Any other character. -/
  | plain {c : Char} {rest : List Char} (bare : c ∉ ['\\', '.', '*', '[']) (later : Guarded rest) :
    Guarded (c :: rest)
  /-- A dot or a backslash that is protected. -/
  | escaped {c : Char} {rest : List Char} (sign : c = '\\' ∨ c = '.') (later : Guarded rest) :
    Guarded ('\\' :: c :: rest)

variable {c : Char} {text rest after : List Char}

/-- A character that is no backslash is no part of a pair. -/
theorem Guarded.of_ne (guarded : Guarded (c :: rest)) (other : c ≠ '\\') :
    c ∉ ['\\', '.', '*', '['] ∧ Guarded rest := by
  cases guarded with
  | plain bare later => exact ⟨bare, later⟩
  | escaped => exact absurd rfl other

/-- What stands behind a character that is no backslash is made of whole pairs. -/
theorem Guarded.tail (guarded : Guarded (c :: rest)) (other : c ≠ '\\') : Guarded rest := (guarded.of_ne other).2

/-- Behind a backslash stands a dot or a backslash. -/
theorem Guarded.of_slash (guarded : Guarded ('\\' :: rest)) :
    ∃ c after, rest = c :: after ∧ (c = '\\' ∨ c = '.') ∧ Guarded after := by
  cases guarded with
  -- A backslash never stands alone.
  | plain bare later => exact absurd List.mem_cons_self bare
  | escaped sign later => exact ⟨_, _, rfl, sign, later⟩

/-- Guarded texts may stand one after the other. -/
theorem Guarded.append (one : Guarded text) (two : Guarded after) : Guarded (text ++ after) := by
  induction one with
  | nil => exact two
  | plain bare _ ih => exact .plain bare ih
  | escaped sign _ ih => exact .escaped sign ih

/-- Blanks are no backslashes. -/
theorem isBlank_slash : Unicode.isBlank '\\' = false := by decide +kernel

/-- Blanks and comments are made of whole pairs. -/
theorem Guarded.skipFrom (guarded : Guarded text) (inComment : Bool) :
    Guarded (skipFrom inComment text) := by
  induction guarded generalizing inComment with
  | nil => exact .nil
  | @plain c rest bare later ih =>
    -- A blank or a sign of a comment is dropped alone.
    unfold Regex.skipFrom
    split
    · exact ih _
    split
    · exact ih _
    split
    · exact ih _
    · exact .plain bare later
  | @escaped c rest sign later ih =>
    cases inComment with
    | true =>
      -- Neither character of the pair ends the comment.
      have inside : c ≠ '\n' := by rcases sign with rfl | rfl <;> decide
      simp only [Regex.skipFrom, if_true, ne_eq, inside, not_false_eq_true, decide_true]
      exact ih true
    | false =>
      have hash : '\\' ≠ '#' := by decide
      simp only [Regex.skipFrom, Bool.false_eq_true, if_false, isBlank_slash, hash]
      exact .escaped sign later

/-- What comes after blanks starts at no half of a pair. -/
theorem Guarded.skipBlank (guarded : Guarded text) (extended : Bool) :
    Guarded (skipBlank extended text) := by
  unfold Regex.skipBlank
  split
  · -- Blanks are passed over in the extended notation only.
    exact guarded.skipFrom false
  · exact guarded

/-- Dropping characters of a class that has no backslash leaves whole pairs. -/
theorem Guarded.dropWhile (guarded : Guarded text) {holds : Char → Bool} (other : holds '\\' = false) :
    Guarded (text.dropWhile holds) := by
  induction guarded with
  | nil => exact .nil
  | @plain c rest bare later ih =>
    rw [List.dropWhile_cons]
    split
    · exact ih
    · exact .plain bare later
  | escaped sign later ih =>
    -- The backslash is not dropped, so its pair stays whole.
    rw [List.dropWhile_cons, other]
    exact .escaped sign later

/-- Dropping the lazy mark leaves whole pairs. -/
theorem Guarded.dropLazy (guarded : Guarded text) : Guarded (dropLazy text) := by
  unfold Regex.dropLazy
  split
  · -- The mark is a character of its own.
    exact guarded.tail (by decide)
  · exact guarded

/-- A character of a name is followed by the rest of the name. -/
theorem readName_cons {first : Bool} {name : List Char} (open' : c ≠ '>')
    (done : readName first (c :: rest) = .ok (name, after)) : ∃ later, readName false rest = .ok (later, after) := by
  rw [readName, if_neg open'] at done
  split at done
  · -- The character belongs to the name, and the rest of the name follows.
    obtain ⟨⟨later, after'⟩, read, last⟩ := bind_eq_ok done
    cases last
    exact ⟨later, read⟩
  · cases done

/-- A name ends before whole pairs. -/
theorem Guarded.readName (guarded : Guarded text) {first : Bool} {name : List Char}
    (done : readName first text = .ok (name, after)) : Guarded after := by
  induction guarded generalizing first name with
  | nil => cases done
  | @plain c rest bare later ih =>
    -- The name ends at the bracket.
    by_cases close : c = '>'
    · subst close
      rw [Regex.readName, if_pos rfl] at done
      split at done
      · cases done
      · cases done
        exact later
    · obtain ⟨name', read⟩ := readName_cons close done
      exact ih read
  | @escaped c rest sign later ih =>
    -- A name that holds one character of a pair holds the other one, too.
    have inside : c ≠ '>' := by rcases sign with rfl | rfl <;> decide
    obtain ⟨name', read⟩ := readName_cons (by decide) done
    obtain ⟨name'', read'⟩ := readName_cons inside read
    exact ih read'

/-- A list of flags ends before whole pairs. -/
theorem Guarded.readFlags (guarded : Guarded text) {list found : FlagList} {stop : Char}
    (done : readFlags list text = .ok (found, stop, after)) : Guarded after := by
  induction text generalizing list with
  | nil => cases done
  | cons c rest ih =>
    have other : c ≠ '\\' := by
      rintro rfl
      -- A backslash ends no list and is no flag.
      rw [Regex.readFlags, if_neg (by decide)] at done
      split at done
      · cases done
      rw [if_neg (by decide)] at done
      cases done
    -- So each flag stands alone.
    have later := guarded.tail other
    rw [Regex.readFlags] at done
    split at done
    · -- The list ends with a colon or a parenthesis, which stands alone as well.
      split at done
      · cases done
      · cases done
        exact later
    split at done
    · cases done
    split at done
    · exact ih later done
    split at done
    · exact ih later done
    · cases done

/-- What follows an opening parenthesis ends before whole pairs. -/
theorem Guarded.readOpening (guarded : Guarded text) {flags : Flags} {opening : Opening}
    (done : readOpening flags text = .ok (opening, after)) : Guarded after := by
  have left := guarded.skipBlank flags.extended
  unfold Regex.readOpening at done
  generalize Regex.skipBlank flags.extended text = text at done left
  -- Both ways to give a name end with it.
  have named : ∀ {rest}, Guarded rest → openNamed flags rest = .ok (opening, after) → Guarded after := by
    intro rest guarded done
    obtain ⟨⟨name, after'⟩, read, last⟩ := bind_eq_ok done
    cases last
    exact guarded.readName read
  dsimp only at done
  split at done
  · cases done
  split at done
  · -- The signs of a mark are no backslashes, so they are dropped one by one.
    exact named (((left.tail (by decide)).tail (by decide)).tail (by decide)) done
  · exact named ((left.tail (by decide)).tail (by decide)) done
  · obtain ⟨⟨list, stop, after'⟩, read, last⟩ := bind_eq_ok done
    -- Flags come after the question mark.
    have later := (left.tail (by decide)).readFlags read
    dsimp only at last
    split at last
    · cases last
      exact later
    split at last
    · cases last
    · cases last
      exact later
  · cases done
    exact left

/-- Digits end before whole pairs. -/
theorem Guarded.readDigits (guarded : Guarded text) (extended inComment : Bool) (value : Option Nat) :
    Guarded (readDigits extended inComment value text).2 := by
  induction guarded generalizing inComment value with
  | nil => exact .nil
  | @plain c rest bare later ih =>
    -- Comments, blanks and digits are passed one by one.
    unfold Regex.readDigits
    split
    · exact ih _ _
    split
    · exact ih _ _
    split
    · exact ih _ _
    split
    · exact ih _ _
    · exact .plain bare later
  | @escaped c rest sign later ih =>
    cases inComment with
    | true =>
      -- The pair belongs to the comment as a whole.
      have inside : c ≠ '\n' := by rcases sign with rfl | rfl <;> decide
      simp only [Regex.readDigits, if_true, ne_eq, inside, not_false_eq_true, decide_true]
      exact ih true value
    | false =>
      have digit : '\\'.isDigit = false := by decide
      have hash : '\\' ≠ '#' := by decide
      simp only [Regex.readDigits, Bool.false_eq_true, if_false, digit, isBlank_slash, hash, decide_false,
        Bool.and_false]
      exact .escaped sign later

/-- A bound ends before whole pairs. -/
theorem Guarded.readCount (guarded : Guarded text) {extended : Bool} {value : Nat}
    (done : readCount extended text = .ok (value, after)) : Guarded after := by
  -- Blanks, digits and blanks again are passed over.
  have left := (guarded.dropWhile isBlank_slash).readDigits extended false none
  unfold Regex.readCount at done
  split at done
  · rename_i found rest read
    rw [read] at left
    split at done
    · cases done
      exact left.dropWhile isBlank_slash
    · cases done
  · cases done

/-- Bounds end before whole pairs. -/
theorem Guarded.readBounds (guarded : Guarded text) {extended : Bool} {low : Nat} {high : Option Nat}
    (done : readBounds extended text = .ok (low, high, after)) : Guarded after := by
  obtain ⟨⟨lower, rest⟩, read, bounded⟩ := bind_eq_ok done
  have left := (guarded.skipBlank extended).readCount read
  dsimp only at bounded
  split at bounded
  · cases bounded
    -- A closing brace ends the bounds after a single number.
    exact left.tail (by decide)
  · rename_i rest
    -- After a comma there may be an upper bound.
    have behind := (left.tail (by decide)).skipBlank extended
    split at bounded
    · rename_i rest same
      cases bounded
      rw [same] at behind
      exact behind.tail (by decide)
    · obtain ⟨⟨upper, rest⟩, read', closed⟩ := bind_eq_ok bounded
      have last := behind.readCount read'
      dsimp only at closed
      split at closed
      · split at closed
        · cases closed
          exact last.tail (by decide)
        · cases closed
      · cases closed
  · cases bounded

/-- A character that is read alone and what it stands for. -/
theorem readPiece_guarded {flags : Flags} {piece : Piece} (guarded : Guarded (c :: rest))
    (plain : c ∉ roundSigns) (done : readPiece flags c rest = .ok (piece, after)) :
    Guarded after ∧ ((∃ assertion, piece.regex = .assert assertion) ∨
      ∃ d set, d ∉ liveSigns ∧ charSet flags d false = .ok set ∧
        piece.regex = .oneOf set) := by
  by_cases slash : c = '\\'
  · -- A pair is read as its second character.
    subst slash
    obtain ⟨d, behind, rfl, sign, later⟩ := guarded.of_slash
    have escape : readEscape flags (d :: behind) = .ok (.char d false, behind) := by
      rcases sign with rfl | rfl <;> rfl
    have other : d ∉ liveSigns := by rcases sign with rfl | rfl <;> decide
    obtain ⟨⟨atom, rest'⟩, read, last⟩ := bind_eq_ok done
    cases escape.symm.trans read
    obtain ⟨set, found, last⟩ := bind_eq_ok last
    cases last
    exact ⟨later, .inr ⟨d, set, other, found, rfl⟩⟩
  · -- Any other character is read alone, for there are no brackets and no bare dots.
    obtain ⟨bare, later⟩ := guarded.of_ne slash
    simp only [List.mem_cons, List.not_mem_nil, or_false, not_or] at bare
    simp only [roundSigns, List.mem_cons, List.not_mem_nil, or_false, not_or] at plain
    unfold readPiece at done
    split at done
    · exact absurd rfl bare.2.2.2
    · exact absurd rfl bare.1
    · exact absurd rfl bare.2.1
    · cases done
      exact ⟨later, .inl ⟨_, rfl⟩⟩
    · cases done
      exact ⟨later, .inl ⟨_, rfl⟩⟩
    · rename_i caret dollar
      obtain ⟨set, found, last⟩ := bind_eq_ok done
      cases last
      refine ⟨later, .inr ⟨c, set, ?_, found, rfl⟩⟩
      simp only [liveSigns, List.mem_cons, List.not_mem_nil, or_false, not_or]
      exact ⟨plain.2.2.2.2.1, plain.2.2.2.2.2.1, plain.1, plain.2.1, plain.2.2.1, plain.2.2.2.2.2.2, caret,
        dollar⟩

/-- A step ends before whole pairs. -/
theorem Guarded.step {state next : ReadState} (guarded : Guarded (c :: rest))
    (done : state.step c rest = .ok (next, after)) : Guarded after := by
  by_cases sign : c ∈ roundSigns
  · -- What follows a sign is read by readers that never stop inside a pair.
    have other : c ≠ '\\' := by
      rintro rfl
      exact absurd sign (by decide)
    have later := guarded.tail other
    simp only [roundSigns, List.mem_cons, List.not_mem_nil, or_false] at sign
    rcases sign with rfl | rfl | rfl | rfl | rfl | rfl | rfl
    · obtain ⟨⟨opening, rest'⟩, read, last⟩ := bind_eq_ok done
      obtain ⟨_, rfl⟩ := map_eq_ok last
      -- A parenthesis is followed by its mark.
      exact later.readOpening read
    · obtain ⟨_, rfl⟩ := map_eq_ok done
      exact later
    · cases done
      exact later
    · obtain ⟨_, rfl⟩ := map_eq_ok done
      exact later.dropLazy
    · obtain ⟨_, rfl⟩ := map_eq_ok done
      exact later.dropLazy
    · obtain ⟨_, rfl⟩ := map_eq_ok done
      exact later.dropLazy
    · obtain ⟨⟨⟨low, high⟩, rest'⟩, read, last⟩ := bind_eq_ok done
      obtain ⟨_, rfl⟩ := map_eq_ok last
      -- After the braces blanks and a lazy mark may follow.
      exact ((later.readBounds (readBounds_of_pair read)).skipBlank _).dropLazy
  · rw [ReadState.step_piece state sign] at done
    obtain ⟨⟨piece, rest'⟩, read, last⟩ := bind_eq_ok done
    obtain ⟨_, rfl⟩ := map_eq_ok last
    exact (readPiece_guarded guarded sign read).1

/-- Reading leaves whole pairs behind. -/
theorem stays_guarded : Stays Guarded :=
  ⟨fun guarded => guarded.skipBlank _, fun guarded done => guarded.step done⟩

/-- None of the sets of characters holds a sign of the notation. -/
def Unsigned (regex : Regex) : Prop := ∀ set ∈ regex.sets, ∀ sign ∈ liveSigns, set.contains sign = false

/-- What is put together of such regexes is such a regex. -/
theorem composes_unsigned : Composes Unsigned where
  empty := by simp [Unsigned, sets]
  seq one two := List.forall_mem_append.mpr ⟨one, two⟩
  alt one two := List.forall_mem_append.mpr ⟨one, two⟩
  rep body _ := body
  capture body := body

/-- A character that is no sign does not stand for a sign, not even where case makes no difference. -/
theorem charSet_unsigned {flags : Flags} {set : CharSet} (plain : c ∉ liveSigns)
    (found : charSet flags c false = .ok set) : ∀ sign ∈ liveSigns, set.contains sign = false := by
  intro sign live
  -- No sign is a letter, so changes of case add none.
  obtain ⟨low, noLetter⟩ : sign.toNat < 128 ∧ ¬Unicode.AsciiLetter sign.toNat := by
    simp only [liveSigns, List.mem_cons, List.not_mem_nil, or_false] at live
    rcases live with rfl | rfl | rfl | rfl | rfl | rfl | rfl | rfl <;> decide
  -- Without regard to case the set holds this character alone.
  have other : (CharSet.single c).contains sign ≠ true := by
    intro held
    exact plain ((CharSet.single_contains c sign).mp held ▸ live)
  rw [Bool.eq_false_iff]
  intro held
  obtain ⟨whole, read, last⟩ := bind_eq_ok found
  obtain rfl : c = whole := by
    simp only [wholeChar, Bool.and_false, Bool.false_and] at read
    exact Except.ok.inj read
  cases last
  split at held
  · exact other held
  split at held
  · exact other (CharSet.containsCode_foldCase low noLetter held)
  · exact other (CharSet.containsCode_foldAsciiCase low noLetter held)

/-- What is read of a guarded text covers no signs. -/
theorem ofText_unsigned {regex : Regex} (guarded : Guarded text) (done : ofText text = .ok regex) :
    Unsigned regex := by
  -- Each part that is read alone covers no signs, and parts are all that there is.
  refine ofText_holds composes_unsigned stays_guarded (fun guarded plain read => ?_) guarded done
  rcases (readPiece_guarded guarded plain read).2 with ⟨assertion, same⟩ | ⟨d, set, unsigned, found, same⟩
  · rw [same]
    simp [Unsigned, sets]
  · rw [same]
    intro other member
    obtain rfl := List.mem_singleton.mp member
    exact charSet_unsigned unsigned found

end Regex

end ModuleScope
