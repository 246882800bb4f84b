import Mathlib.Data.List.Infix
import ModuleScope.Text.Replace

/-! Where words stand in a text, what replacing them gives, and the pieces between marks. -/

namespace ModuleScope.Text

/-- How often a word stands in a text. -/
def occurrences (word : List Char) : List Char → Nat
  | [] => 0
  | c :: rest => occurrences word rest + if word.isPrefixOf (c :: rest) then 1 else 0

/-- The pieces are what stands in a text between the marks. -/
structure Separated (mark : Char) (text : List Char) (pieces : List (List Char)) : Prop where
  /-- There is always a piece. -/
  some : pieces ≠ []
  /-- No piece goes over a mark. -/
  bare : ∀ piece ∈ pieces, mark ∉ piece
  /-- With marks between them the pieces are the text. -/
  whole : [mark].intercalate pieces = text

/-- Every text has pieces: those that it is split into. -/
theorem separated_splitOn (mark : Char) (text : List Char) : Separated mark text (splitOn (· = mark) text) := by
  induction text with
  | nil => exact ⟨by simp [splitOn], by simp [splitOn], rfl⟩
  | cons c rest ih =>
    obtain ⟨some, bare, whole⟩ := ih
    obtain ⟨first, others, split⟩ := List.exists_cons_of_ne_nil some
    rw [split] at bare whole
    by_cases same : c = mark
    · -- An empty piece ends at the mark, and the others are as they were.
      have pieces : splitOn (· = mark) (c :: rest) = [] :: first :: others := by simp [splitOn, same, split]
      rw [pieces]
      refine ⟨List.cons_ne_nil _ _, fun piece member => ?_, ?_⟩
      · rcases List.mem_cons.mp member with rfl | member
        · exact List.not_mem_nil
        · exact bare piece member
      · simp [← whole, same, List.intercalate]
    · -- The character belongs to the piece that comes first.
      have pieces : splitOn (· = mark) (c :: rest) = (c :: first) :: others := by simp [splitOn, same, split]
      rw [pieces]
      refine ⟨List.cons_ne_nil _ _, fun piece member => ?_, ?_⟩
      · rcases List.mem_cons.mp member with rfl | member
        · have free := bare first List.mem_cons_self
          simp [Ne.symm same, free]
        · exact bare piece (List.mem_cons_of_mem first member)
      · cases others <;> simp [← whole, List.intercalate]

/-- A piece before a mark is the first of all pieces. -/
theorem splitOn_append {mark : Char} {piece : List Char} (bare : mark ∉ piece) (rest : List Char) :
    splitOn (· = mark) (piece ++ mark :: rest) = piece :: splitOn (· = mark) rest := by
  induction piece with
  | nil => simp [splitOn]
  | cons c piece ih =>
    simp only [List.mem_cons, not_or] at bare
    -- No character of the piece is the mark, so all of them go into it.
    have other : c ≠ mark := Ne.symm bare.1
    simp [splitOn, other, ih bare.2]

/-- Only one mark of a text is the first. -/
theorem first_mark_unique {mark : Char} {front front' back back' : List Char} (bare : mark ∉ front)
    (bare' : mark ∉ front') (same : front ++ mark :: back = front' ++ mark :: back') :
    front = front' ∧ back = back' := by
  -- What stands before it is the first piece of the text in either case.
  have pieces := congrArg (splitOn (· = mark)) same
  rw [splitOn_append bare, splitOn_append bare'] at pieces
  obtain rfl := (List.cons.inj pieces).1
  exact ⟨rfl, (List.cons.inj (List.append_cancel_left same)).2⟩

/-- Only one mark of a text is the last. -/
theorem last_mark_unique {mark : Char} {front front' back back' : List Char} (bare : mark ∉ back)
    (bare' : mark ∉ back') (same : front ++ mark :: back = front' ++ mark :: back') :
    front = front' ∧ back = back' := by
  -- Read backwards, the last mark is the first.
  have backwards : back.reverse ++ mark :: front.reverse = back'.reverse ++ mark :: front'.reverse := by
    simpa using congrArg List.reverse same
  obtain ⟨backs, fronts⟩ := first_mark_unique (by simpa using bare) (by simpa using bare') backwards
  exact ⟨List.reverse_injective fronts, List.reverse_injective backs⟩

/-- A text without marks is a single piece. -/
theorem splitOn_bare {mark : Char} {piece : List Char} (bare : mark ∉ piece) :
    splitOn (· = mark) piece = [piece] := by
  induction piece with
  | nil => rfl
  | cons c piece ih =>
    simp only [List.mem_cons, not_or] at bare
    have other : c ≠ mark := Ne.symm bare.1
    simp [splitOn, other, ih bare.2]

/-- Splitting a text at its marks gives the pieces between them. -/
theorem Separated.splitOn_eq {mark : Char} {text : List Char} {pieces : List (List Char)}
    (separated : Separated mark text pieces) : splitOn (· = mark) text = pieces := by
  obtain ⟨some, bare, rfl⟩ := separated
  induction pieces with
  -- No pieces at all are not what stands between marks.
  | nil => exact absurd rfl some
  | cons piece rest ih =>
    have first : mark ∉ piece := bare piece List.mem_cons_self
    -- Only a piece that another one follows has a mark behind it.
    cases rest with
    | nil => simpa [List.intercalate] using splitOn_bare first
    | cons next rest =>
      have later := ih (by simp) fun other member => bare other (List.mem_cons_of_mem piece member)
      have split : [mark].intercalate (piece :: next :: rest) =
          piece ++ mark :: [mark].intercalate (next :: rest) := by
        simp [List.intercalate]
      rw [split, splitOn_append first, later]

section

variable {word new : List Char}

/-- Leaving out characters is the same as starting behind them. -/
theorem replaceFrom_append (word new front rest : List Char) :
    replaceFrom word new front.length (front ++ rest) = replaceAll word new rest := by
  induction front with
  | nil => rfl
  | cons c front ih => exact ih

/-- A word that starts a text is replaced. -/
theorem replaceAll_word (some : word ≠ []) (rest : List Char) :
    replaceAll word new (word ++ rest) = new ++ replaceAll word new rest := by
  cases word with
  | nil => exact absurd rfl some
  | cons mark tail =>
    -- The word is seen at its first character, and the rest of it is then skipped.
    have starts : (mark :: tail).isPrefixOf (mark :: (tail ++ rest)) = true := by
      simp [List.isPrefixOf_iff_prefix]
    have behind := replaceFrom_append (mark :: tail) new tail rest
    rw [List.cons_append, replaceAll, replaceFrom, if_pos starts]
    simpa using congrArg (new ++ ·) behind

/-- Where no word starts a character is kept. -/
theorem replaceAll_cons {c : Char} {rest : List Char} (other : ¬word <+: c :: rest) :
    replaceAll word new (c :: rest) = c :: replaceAll word new rest := by
  have starts : ¬word.isPrefixOf (c :: rest) = true := by rwa [List.isPrefixOf_iff_prefix]
  rw [replaceAll, replaceFrom, if_neg starts, replaceAll]

/-- A place where the word stands is one more. -/
theorem occurrences_cons_hit {c : Char} {rest : List Char} (starts : word <+: c :: rest) :
    occurrences word (c :: rest) = occurrences word rest + 1 := by
  rw [occurrences, if_pos (List.isPrefixOf_iff_prefix.mpr starts)]

/-- A place where the word does not stand counts for nothing. -/
theorem occurrences_cons_miss {c : Char} {rest : List Char}
    (other : ¬word <+: c :: rest) : occurrences word (c :: rest) = occurrences word rest := by
  rw [occurrences, if_neg (mt List.isPrefixOf_iff_prefix.mp other), Nat.add_zero]

/-- Behind any other text there are no fewer places. -/
theorem occurrences_le_append (word front rest : List Char) :
    occurrences word rest ≤ occurrences word (front ++ rest) := by
  induction front with
  | nil => exact Nat.le_refl _
  | cons c front ih => exact Nat.le_trans ih (Nat.le_add_right _ _)

/-- A word does not stand where a character stands that it does not start with. -/
theorem not_prefix_cons {mark c : Char} {tail rest : List Char} (other : c ≠ mark) :
    ¬mark :: tail <+: c :: rest := fun starts =>
  other (List.cons_prefix_cons.mp starts).1.symm

/-- A text without the first character of a word adds no places. -/
theorem occurrences_append_of_bare {mark : Char} {tail front : List Char} (bare : mark ∉ front)
    (rest : List Char) :
    occurrences (mark :: tail) (front ++ rest) = occurrences (mark :: tail) rest := by
  induction front with
  | nil => rfl
  | cons c front ih =>
    simp only [List.mem_cons, not_or] at bare
    -- The word starts with another character, so it does not stand at this one.
    rw [List.cons_append, occurrences_cons_miss (not_prefix_cons (Ne.symm bare.1)),
      ih bare.2]

/-- A text without the first character of a word is kept. -/
theorem replaceAll_of_bare {mark : Char} {front : List Char} (tail new : List Char) (bare : mark ∉ front)
    (rest : List Char) :
    replaceAll (mark :: tail) new (front ++ rest) = front ++ replaceAll (mark :: tail) new rest := by
  induction front with
  | nil => rfl
  | cons c front ih =>
    simp only [List.mem_cons, not_or] at bare
    rw [List.cons_append, replaceAll_cons (not_prefix_cons (Ne.symm bare.1)), ih bare.2,
      List.cons_append]

/-- A word whose first character does not come back is one place. -/
theorem occurrences_word {mark : Char} {tail : List Char} (bare : mark ∉ tail)
    (rest : List Char) :
    occurrences (mark :: tail) (mark :: tail ++ rest) = occurrences (mark :: tail) rest + 1 := by
  have starts : mark :: tail <+: mark :: (tail ++ rest) := List.prefix_append (mark :: tail) rest
  rw [List.cons_append, occurrences_cons_hit starts, occurrences_append_of_bare bare]

/-- Either no word starts in the front of a text or the first one there is replaced. -/
theorem replaceAll_front (new : List Char) (some : word ≠ []) (front rest : List Char) :
    (replaceAll word new (front ++ rest) = front ++ replaceAll word new rest ∧
        occurrences word (front ++ rest) = occurrences word rest) ∨
      (occurrences word rest < occurrences word (front ++ rest) ∧
        ∃ before middle after, front = before ++ middle ∧ middle ≠ [] ∧ word <+: middle ++ rest ∧
          replaceAll word new (front ++ rest) = before ++ (new ++ after)) := by
  induction front with
  | nil => exact .inl ⟨rfl, rfl⟩
  | cons c front ih =>
    -- The search through the front ends where a word starts; that may go over the end of the front.
    by_cases starts : word <+: c :: (front ++ rest)
    · obtain ⟨behind, split⟩ := starts
      have more := occurrences_cons_hit ⟨behind, split⟩
      have fewer := occurrences_le_append word front rest
      refine .inr ⟨by rw [List.cons_append]; omega, [], c :: front, replaceAll word new behind, rfl,
        List.cons_ne_nil _ _, ⟨behind, split⟩, ?_⟩
      rw [List.cons_append, ← split, replaceAll_word some, List.nil_append]
    · -- Here no word starts, so the character is kept and the search goes on.
      have same := occurrences_cons_miss starts
      have kept : replaceAll word new (c :: (front ++ rest)) = c :: replaceAll word new (front ++ rest) :=
        replaceAll_cons starts
      rcases ih with ⟨past, equal⟩ | ⟨more, before, middle, after, cut, filled, begins, replaced⟩
      · exact .inl ⟨by rw [List.cons_append, kept, past, List.cons_append],
          by rw [List.cons_append, same, equal]⟩
      · refine .inr ⟨by rw [List.cons_append, same]; exact more, c :: before, middle, after, ?_,
          filled, begins, ?_⟩
        · rw [cut, List.cons_append]
        · rw [List.cons_append, kept, replaced, List.cons_append]

/-- What starts two texts in a row ends in the first of them or goes over it. -/
theorem prefix_append_cases {word front rest : List Char} (starts : word <+: front ++ rest) :
    word <+: front ∨ ∃ behind, word = front ++ behind ∧ behind <+: rest := by
  obtain ⟨left, whole⟩ := starts
  -- Two ways of cutting one text in two: one of the cuts comes first.
  rcases List.append_eq_append_iff.mp whole with ⟨behind, split, _⟩ | ⟨behind, split, left_eq⟩
  · exact .inl ⟨behind, split.symm⟩
  · exact .inr ⟨behind, split, left, left_eq.symm⟩

/-- An induction over a text as a replacement of a word reads it. -/
theorem induction_word {motive : List Char → Prop} (some : word ≠ []) (nil : motive [])
    (found : ∀ rest, motive rest → motive (word ++ rest))
    (kept : ∀ c rest, ¬word <+: c :: rest → motive rest → motive (c :: rest)) (text : List Char) :
    motive text := by
  -- A word that is found is left out at once, so the induction is on the length.
  induction size : text.length using Nat.strong_induction_on generalizing text with
  | _ size ih =>
    subst size
    cases text with
    | nil => exact nil
    | cons c rest =>
      -- A word is passed over as a whole, any other character by itself.
      by_cases starts : word <+: c :: rest
      · obtain ⟨behind, split⟩ := starts
        have positive : 0 < word.length := List.length_pos_iff.mpr some
        have long : (c :: rest).length = word.length + behind.length := by
          rw [← split, List.length_append]
        exact split ▸ found behind (ih behind.length (by omega) behind rfl)
      · exact kept c rest starts (ih rest.length (Nat.lt_succ_self _) rest rfl)

/-- How long a text is in which a word is replaced. -/
theorem length_replaceAll {mark : Char} {tail : List Char} (new : List Char) (bare : mark ∉ tail)
    (text : List Char) :
    (replaceAll (mark :: tail) new text).length +
        occurrences (mark :: tail) text * (mark :: tail).length =
      text.length + occurrences (mark :: tail) text * new.length := by
  induction text using induction_word (List.cons_ne_nil mark tail) with
  | nil => simp [replaceAll, replaceFrom, occurrences]
  | found rest ih =>
    -- Each word that is found takes its own length away and adds that of what is new.
    rw [replaceAll_word (List.cons_ne_nil _ _), occurrences_word bare]
    simp only [List.length_append, Nat.add_mul, Nat.one_mul]
    omega
  | kept c rest other ih =>
    rw [replaceAll_cons other, occurrences_cons_miss other]
    simp only [List.length_cons] at ih ⊢
    omega

/-- What starts a text with a word replaced stood there before, if what is new starts with another
character. -/
theorem prefix_of_prefix_replaceAll {start : List Char} {c : Char} {text : List Char}
    (some : word ≠ []) (bare : c ∉ start) (starts : start <+: replaceAll word (c :: new) text) :
    start <+: text := by
  induction text using induction_word some generalizing start with
  | nil => exact starts
  | found rest _ =>
    -- What is new starts with a character that is not among those sought.
    rw [replaceAll_word some, List.cons_append] at starts
    cases start with
    | nil => exact List.nil_prefix
    | cons first start =>
      exact absurd ((List.cons_prefix_cons.mp starts).1 ▸ List.mem_cons_self) bare
  | kept first rest other ih =>
    -- A character that is kept is the same before and after.
    rw [replaceAll_cons other] at starts
    cases start with
    | nil => exact List.nil_prefix
    | cons d start =>
      obtain ⟨rfl, later⟩ := List.cons_prefix_cons.mp starts
      exact List.cons_prefix_cons.mpr ⟨rfl, ih (fun member => bare (.tail _ member)) later⟩

/-- A word that is replaced by itself changes nothing. -/
theorem replaceAll_self (some : word ≠ []) (text : List Char) : replaceAll word word text = text := by
  induction text using induction_word some with
  | nil => rfl
  | found rest ih => rw [replaceAll_word some, ih]
  | kept c rest other ih => rw [replaceAll_cons other, ih]

end

end ModuleScope.Text
