import ModuleScope.Path.Basic
import ModuleScope.Proofs.Text.Replace

/-! Paths that are made of names: taking them apart gives the names back. -/

namespace ModuleScope.Path

/-- The pieces of a path are what stands between the slashes of its text. -/
theorem pieces_eq_splitOn (text : List Char) : pieces text = Text.splitOn (· = '/') text := by
  induction text with
  | nil => rfl
  | cons c rest ih => simp only [pieces, Text.splitOn, ih, decide_eq_true_eq]

/-- Every text has a piece. -/
theorem pieces_ne_nil (text : List Char) : pieces text ≠ [] := by
  rw [pieces_eq_splitOn]
  exact (Text.separated_splitOn '/' text).some

/-- No slash stands in a piece. -/
theorem slashless_of_mem_pieces {text piece : List Char} (member : piece ∈ pieces text) : '/' ∉ piece := by
  rw [pieces_eq_splitOn] at member
  exact (Text.separated_splitOn '/' text).bare piece member

/-- A piece before a slash is the first of all pieces. -/
theorem pieces_append {piece : List Char} (slashless : '/' ∉ piece) (rest : List Char) :
    pieces (piece ++ '/' :: rest) = piece :: pieces rest := by
  rw [pieces_eq_splitOn, pieces_eq_splitOn, Text.splitOn_append slashless]

/-- A text without slashes is a single piece. -/
theorem pieces_slashless {piece : List Char} (slashless : '/' ∉ piece) : pieces piece = [piece] := by
  rw [pieces_eq_splitOn, Text.splitOn_bare slashless]

/-- Names that a text is made of have slashes between them. -/
theorem joinPieces_eq_intercalate (names : List (List Char)) : joinPieces names = ['/'].intercalate names := by
  induction names with
  | nil => rfl
  | cons name rest ih =>
    cases rest with
    | nil => simp [joinPieces, List.intercalate]
    | cons next rest =>
      -- Only a name that another one follows has a slash behind it.
      show name ++ '/' :: joinPieces (next :: rest) = _
      rw [ih]
      simp [List.intercalate]

/-- The names that a text is made of are its pieces. -/
theorem pieces_joinPieces {names : List (List Char)} (some : names ≠ []) (slashless : ∀ name ∈ names, '/' ∉ name) :
    pieces (joinPieces names) = names := by
  have separated : Text.Separated '/' (joinPieces names) names :=
    ⟨some, slashless, (joinPieces_eq_intercalate names).symm⟩
  rw [pieces_eq_splitOn, separated.splitOn_eq]

/-- What is made of some names and others is what is made of either, with a slash between. -/
theorem joinPieces_append {front back : List (List Char)} (some : front ≠ []) (some' : back ≠ []) :
    joinPieces (front ++ back) = joinPieces front ++ '/' :: joinPieces back := by
  induction front with
  | nil => exact absurd rfl some
  | cons name rest ih =>
    -- A slash follows a name only where there is another one, so the last name of the front is a case of its own.
    cases rest with
    | nil =>
      obtain ⟨next, others, rfl⟩ := List.exists_cons_of_ne_nil some'
      rfl
    | cons next rest =>
      have later := ih (by simp)
      show name ++ '/' :: joinPieces (next :: rest ++ back) = _
      rw [later]
      simp [joinPieces]

/-- The characters of a text made of names are slashes and those of the names. -/
theorem mem_joinPieces {names : List (List Char)} {c : Char} (member : c ∈ joinPieces names) :
    c = '/' ∨ ∃ name ∈ names, c ∈ name := by
  induction names with
  | nil => cases member
  | cons name rest ih =>
    cases rest with
    | nil => exact Or.inr ⟨name, List.mem_cons_self, member⟩
    | cons next rest =>
      have split : c ∈ name ++ '/' :: joinPieces (next :: rest) := member
      -- The character stands in the first name, is the slash behind it or comes later.
      rcases List.mem_append.mp split with inside | after
      · exact Or.inr ⟨name, List.mem_cons_self, inside⟩
      · rcases List.mem_cons.mp after with slash | later
        · exact Or.inl slash
        · rcases ih later with slash | ⟨other, among, inside⟩
          · exact Or.inl slash
          · exact Or.inr ⟨other, List.mem_cons_of_mem name among, inside⟩

/-- A text made of names ends with the last of them. -/
theorem getLast?_joinPieces {names : List (List Char)} {last : List Char} (some : last ≠ []) :
    (joinPieces (names ++ [last])).getLast? = last.getLast? := by
  cases names with
  | nil => rfl
  | cons name rest =>
    have split : joinPieces (name :: rest ++ [last]) = joinPieces (name :: rest) ++ '/' :: last :=
      joinPieces_append (by simp) (by simp)
    have found : last.getLast? = Option.some (last.getLast some) := List.getLast?_eq_some_getLast some
    -- The last name is not empty, so the slash before it is not at the end.
    obtain ⟨c, tail, rfl⟩ := List.exists_cons_of_ne_nil some
    rw [split, List.getLast?_append, List.getLast?_cons_cons, found]
    rfl

/-- A text made of names ends with no slash. -/
theorem getLast?_rooted_ne {names : List (List Char)} {last : List Char} (some : last ≠ []) (slashless : '/' ∉ last) :
    ('/' :: joinPieces (names ++ [last])).getLast? ≠ Option.some '/' := by
  have found : (joinPieces (names ++ [last])).getLast? = Option.some (last.getLast some) :=
    (getLast?_joinPieces some).trans (List.getLast?_eq_some_getLast some)
  rw [List.getLast?_cons, found]
  -- A slash at the end would be a character of the last name.
  intro same
  have slash : last.getLast some = '/' := by simpa using same
  exact slashless (slash ▸ List.getLast_mem some)

/-- A text is a piece of a path that stands for a part of it. -/
structure IsPiece (piece : List Char) : Prop where
  /-- It stands for a part. -/
  counts : (partOf? piece).isSome = true
  /-- It is a single piece. -/
  slashless : '/' ∉ piece

instance (piece : List Char) : Decidable (IsPiece piece) :=
  decidable_of_iff ((partOf? piece).isSome = true ∧ '/' ∉ piece)
    ⟨fun ⟨counts, slashless⟩ => ⟨counts, slashless⟩, fun ⟨counts, slashless⟩ => ⟨counts, slashless⟩⟩

/-- A piece that stands for a part is not empty. -/
theorem IsPiece.filled {piece : List Char} (isPiece : IsPiece piece) : piece ≠ [] := by
  -- An empty piece stands for nothing.
  rintro rfl
  cases isPiece.counts

/-- The path from the root by way of certain names. -/
def rooted (names : List (List Char)) : Path := ⟨'/' :: joinPieces names⟩

variable {front back : List (List Char)} {last : List Char}

/-- Nothing is cut off at the end of names that stand for parts. -/
theorem trimEnd_of_pieces (made : ∀ piece ∈ front, IsPiece piece) : trimEnd front = front := by
  -- Only the last piece is looked at: as it stands for a part, the cutting stops there.
  rcases List.eq_nil_or_concat front with rfl | ⟨init, piece, rfl⟩
  · rfl
  · rw [List.concat_eq_append] at made ⊢
    have counts : (partOf? piece).isSome = true := (made piece (by simp)).counts
    have stops : (partOf? piece).isNone = false := by
      simpa using counts
    simp [trimEnd, stops]

/-- The names of a path are found again behind its root. -/
theorem split_rooted (some : front ≠ []) (made : ∀ piece ∈ front, IsPiece piece) :
    (rooted front).split = (Option.some .root, front) := by
  -- The slash in front is the root, and behind it the names are found again.
  have found : pieces (joinPieces front) = front :=
    pieces_joinPieces some fun piece member => (made piece member).slashless
  simp only [rooted, split, found]

/-- The path above is the one without the last name. -/
theorem parent?_rooted (made : ∀ piece ∈ front ++ [last], IsPiece piece) :
    (rooted (front ++ [last])).parent? = some (rooted front) := by
  have above : ∀ piece ∈ front, IsPiece piece := fun piece member => made piece (List.mem_append_left _ member)
  unfold parent?
  rw [split_rooted (by simp) made]
  -- Nothing is cut off before or after the last name is dropped.
  simp only [trimEnd_of_pieces made, List.dropLast_concat, trimEnd_of_pieces above]
  -- The list of names is looked at once more, to see whether there is anything above.
  cases both : front ++ [last] with
  | nil => simp at both
  | cons first rest => rfl

/-- The parts of a path are its root and what its names stand for. -/
theorem parts_rooted (some : front ≠ []) (made : ∀ piece ∈ front, IsPiece piece) :
    (rooted front).parts = .root :: front.filterMap partOf? := by
  unfold parts
  rw [split_rooted some made]
  rfl

/-- Names that are taken from a path on follow those of the path. -/
theorem join_rooted (some : front ≠ []) (made : ∀ piece ∈ front, IsPiece piece) (some' : back ≠ [])
    (relative : (joinPieces back).head? ≠ Option.some '/') :
    (rooted front).join ⟨joinPieces back⟩ = rooted (front ++ back) := by
  -- The path does not end with a slash, so one is put between.
  have apart : (rooted front).chars.getLast? ≠ Option.some '/' := by
    rcases List.eq_nil_or_concat front with rfl | ⟨init, last, rfl⟩
    · exact absurd rfl some
    · rw [List.concat_eq_append] at made ⊢
      have ending : IsPiece last := made last (by simp)
      exact getLast?_rooted_ne ending.filled ending.slashless
  have filled : (rooted front).chars ≠ [] := by simp [rooted]
  unfold join
  rw [if_neg (by simp [isAbsolute, relative, filled]), if_neg apart]
  simp only [rooted, joinPieces_append some some', List.cons_append]

end ModuleScope.Path
