import ModuleScope.Proofs.Elf.References
import ModuleScope.Proofs.Path.FileName

/-! A path that leads to a file ends with a name. -/

namespace ModuleScope

namespace Path

/-- A text that does not end with a slash ends with a piece. -/
theorem exists_last_piece {text : List Char} (some : text ≠ []) (open' : text.getLast? ≠ Option.some '/') :
    ∃ front last, pieces text = front ++ [last] ∧ last ≠ [] := by
  induction text with
  | nil => exact absurd rfl some
  | cons c rest ih =>
    cases rest with
    | nil =>
      -- A single character that is no slash is a piece.
      have different : c ≠ '/' := by simpa using open'
      exact ⟨[], [c], by simp [pieces, different], List.cons_ne_nil _ _⟩
    | cons d rest =>
      rw [List.getLast?_cons_cons] at open'
      obtain ⟨front, last, split, filled⟩ := ih (List.cons_ne_nil _ _) open'
      rw [pieces, split]
      -- The first piece starts after a slash or with this character.
      by_cases slash : c = '/'
      · exact ⟨[] :: front, last, by simp [slash], filled⟩
      · cases front with
        | nil => exact ⟨[], c :: last, by simp [slash], List.cons_ne_nil _ _⟩
        | cons first front => exact ⟨(c :: first) :: front, last, by simp [slash], filled⟩

/-- A path whose last piece stands for a name ends with it. -/
theorem endsWith_of_pieces {path : Path} {front : List (List Char)} {last : List Char}
    (split : pieces path.chars = front ++ [last]) (counts : partOf? last = some (.name last)) :
    path.EndsWith last := by
  -- The names of the path end like its pieces; only the start is treated differently.
  have ending : ∃ before, path.split.2 = before ++ [last] := by
    unfold Path.split
    split
    · rename_i rest begins
      rw [begins] at split
      have whole : [] :: pieces rest = front ++ [last] := by simpa [pieces] using split
      cases front with
      | nil => exact absurd (List.cons.inj whole).2 (pieces_ne_nil rest)
      | cons first front => exact ⟨front, (List.cons.inj whole).2⟩
    · rw [split]
      split
      · -- The dot at the start is not the last piece.
        rename_i rest dotted
        cases front with
        | nil =>
          obtain rfl := (List.cons.inj dotted).1
          cases counts
        | cons first front => exact ⟨front, (List.cons.inj dotted).2.symm⟩
      · exact ⟨front, rfl⟩
  obtain ⟨before, same⟩ := ending
  refine ⟨path.split.1.toList ++ before.filterMap partOf?, ?_⟩
  rw [parts, same, List.filterMap_append, List.append_assoc]
  simp [counts]

end Path

namespace FileTree

variable {tree : FileTree} {path : Path}

/-- The piece leads to a directory if it leads anywhere: to the one that is there or to the one above. -/
def IsDots (name : List Char) : Prop := name = ['.'] ∨ name = ['.', '.']

/-- Names that end with dots lead to a directory. -/
theorem WellFormed.walkNames_dots (formed : tree.WellFormed)
    {follow : Location → List (List Char) → Except OsError Location} {last : List Char} (dots : IsDots last)
    (follows : ∀ here front place, follow here (front ++ [last]) = .ok place → tree.entry? place = some .directory)
    {here place : Location} {front : List (List Char)}
    (walked : tree.walkNames follow here (front ++ [last]) = .ok place) : tree.entry? place = some .directory := by
  induction front generalizing here with
  | nil =>
    rw [List.nil_append] at walked
    unfold walkNames at walked
    split at walked
    · rename_i directory
      -- A dot stays in the directory, and two dots go to the one above.
      rcases dots with rfl | rfl
      · simp only [if_true, walkNames, Except.ok.injEq] at walked
        exact walked ▸ directory
      · -- Going up from the root leads to the root.
        simp only [List.cons.injEq, reduceCtorEq, and_false, if_false, if_true, walkNames, Except.ok.injEq] at walked
        subst walked
        rcases List.eq_nil_or_concat here with rfl | ⟨above, name, rfl⟩
        · rfl
        · rw [List.concat_eq_append] at directory ⊢
          rw [List.dropLast_concat]
          exact formed.above directory (by simp)
    · cases walked
  | cons name rest ih =>
    rw [List.cons_append] at walked
    unfold walkNames at walked
    split at walked
    · -- Two kinds of dots go on with the other names, and so does a name that is there; a link is followed first.
      split at walked
      · exact ih walked
      split at walked
      · exact ih walked
      split at walked
      · cases walked
      split at walked
      · cases walked
      · rw [← List.append_assoc] at walked
        exact follows _ _ _ walked
      · exact ih walked
    · cases walked

/-- However many links are followed, names that end with dots lead to a directory. -/
theorem WellFormed.walk_dots (formed : tree.WellFormed) {last : List Char} (dots : IsDots last) {links : Nat}
    {here place : Location} {front : List (List Char)} (walked : tree.walk links here (front ++ [last]) = .ok place) :
    tree.entry? place = some .directory := by
  -- Each link that is followed leaves one fewer, and its names stand before those that end with dots.
  induction links generalizing here place front with
  | zero =>
    refine formed.walkNames_dots dots ?_ walked
    intro _ _ _ failed
    cases failed
  | succ links ih => exact formed.walkNames_dots dots (fun _ _ _ walked => ih walked) walked

/-- A file is no directory. -/
theorem not_directory_of_isFile (file : tree.isFile path = true) :
    ∃ place, tree.locate path = .ok place ∧ tree.entry? place ≠ some .directory := by
  rcases Elf.isFile_iff.mp file with ⟨content, seconds, nanoseconds, opened⟩ | ⟨seconds, nanoseconds, opened⟩
  · obtain ⟨place, located, found⟩ := Elf.entry_of_open? opened
    exact ⟨place, located, by simp [found]⟩
  · obtain ⟨place, located, found⟩ := Elf.entry_of_open? opened
    exact ⟨place, located, by simp [found]⟩

/-- A path that leads somewhere is not empty, and its names lead there. -/
theorem walk_of_locate {place : Location} (located : tree.locate path = .ok place) :
    path.chars ≠ [] ∧ tree.walk maxLinks (startOf path.chars tree.current) (namesOf path.chars) = .ok place := by
  unfold locate at located
  split at located
  · cases located
  split at located
  · cases located
  split at located
  · cases located
  · rename_i some
    exact ⟨some, located⟩

/-- A path that leads to a file ends with a name: neither a slash nor dots at its end lead to one. -/
theorem WellFormed.endsWith_of_isFile (formed : tree.WellFormed) (file : tree.isFile path = true) :
    ∃ name, path.EndsWith name := by
  obtain ⟨place, located, different⟩ := not_directory_of_isFile file
  obtain ⟨some, walked⟩ := walk_of_locate located
  -- Whatever ends with dots leads to a directory instead.
  have other : ∀ front last, namesOf path.chars = front ++ [last] → ¬IsDots last := by
    intro front last names dots
    rw [names] at walked
    exact different (formed.walk_dots dots walked)
  by_cases slash : path.chars.getLast? = Option.some '/'
  · -- A slash at the end asks for a dot after it.
    have dotted : namesOf path.chars = (Path.pieces path.chars).filter (· ≠ []) ++ [['.']] := by
      rw [namesOf, if_pos slash]
    exact absurd (Or.inl rfl) (other _ _ dotted)
  · obtain ⟨front, last, split, filled⟩ := Path.exists_last_piece some slash
    have names : namesOf path.chars = front.filter (· ≠ []) ++ [last] := by
      rw [namesOf, if_neg slash, split, List.append_nil, List.filter_append]
      simp [filled]
    -- Otherwise the last piece is the last name, and it is no dots.
    have named := other _ _ names
    refine ⟨last, Path.endsWith_of_pieces split ?_⟩
    rw [IsDots, not_or] at named
    simp [Path.partOf?, filled, named.1, named.2]

end FileTree

end ModuleScope
