import Mathlib.Data.List.TakeWhile
import ModuleScope.Proofs.Path.Pieces

/-! The name at the end of a path, and what is left of it without its last extension. -/

namespace ModuleScope.Path

/-- The last part of the path is the name. -/
def EndsWith (path : Path) (name : List Char) : Prop := ∃ front, path.parts = front ++ [.name name]

/-- What is left of a name without its last extension: a dot at its start starts no extension. -/
inductive WithoutExtension (name : List Char) : List Char → Prop
  /-- The last dot and what follows it are cut off. -/
  | cut {before extension : List Char} (some : before ≠ []) (last : '.' ∉ extension)
    (whole : name = before ++ '.' :: extension) : WithoutExtension name before
  /-- There is no extension. -/
  | kept (none : ∀ before extension, before ≠ [] → '.' ∉ extension → name ≠ before ++ '.' :: extension) :
    WithoutExtension name name

variable {path : Path} {name before : List Char}

/-- A name without its last extension is what the relation says. -/
theorem stem_withoutExtension (name : List Char) : WithoutExtension name (stem name) := by
  by_cases dotted : '.' ∈ name
  · -- Read backwards, the extension comes first.
    obtain ⟨extension, before, backwards, free⟩ := List.eq_append_cons_of_mem (List.mem_reverse.mpr dotted)
    have passed : ∀ c ∈ extension, decide (c ≠ '.') = true := by
      intro c member
      simpa using ne_of_mem_of_not_mem member free
    have left : name.reverse.dropWhile (· ≠ '.') = '.' :: before := by
      rw [backwards, List.dropWhile_append_of_pos passed, List.dropWhile_cons_of_neg (by simp)]
    have whole : name = before.reverse ++ '.' :: extension.reverse := by
      rw [← List.reverse_reverse name, backwards]
      simp
    have last : '.' ∉ extension.reverse := by simpa using free
    unfold stem
    rw [left, List.tail_cons]
    split
    · -- The last dot is at the start.
      rename_i nothing
      refine .kept fun front other some free same => some ?_
      rw [← nothing]
      exact (Text.last_mark_unique last free (whole.symm.trans same)).1.symm
    · -- Something stands before the last dot, and the rest is cut off there.
      rename_i something
      exact .cut something last whole
  · -- Without a dot nothing is left to cut off.
    have nothing : name.reverse.dropWhile (· ≠ '.') = [] := by
      rw [List.dropWhile_eq_nil_iff]
      intro c member
      simpa using ne_of_mem_of_not_mem (List.mem_reverse.mp member) dotted
    unfold stem
    rw [nothing]
    refine .kept fun before extension _ _ same => dotted ?_
    rw [same]
    simp

/-- A name has one rest without its last extension. -/
theorem WithoutExtension.unique {other : List Char} (one : WithoutExtension name before)
    (also : WithoutExtension name other) : before = other := by
  cases one with
  | cut some last whole =>
    -- There is one last dot to cut at.
    cases also with
    | cut _ last' whole' => exact (Text.last_mark_unique last last' (whole.symm.trans whole')).1
    | kept none => exact absurd whole (none _ _ some last)
  | kept none =>
    cases also with
    | cut some last whole => exact absurd whole (none _ _ some last)
    | kept _ => rfl

/-- The name of a file is the last part of its path. -/
theorem fileName?_eq_some : path.fileName? = some name ↔ path.EndsWith name := by
  unfold fileName? EndsWith
  -- The parts end with a name just if their last one is a name.
  rw [← List.getLast?_eq_some_iff]
  split
  · rename_i other found
    rw [found]
    simp
  · rename_i different
    -- The last part is none, or it is no name.
    constructor
    · intro found
      cases found
    · intro found
      exact absurd found (different name)

/-- What a path is split into are pieces, and what stands at its start is no name. -/
theorem split_pieces (path : Path) :
    (∀ piece ∈ path.split.2, '/' ∉ piece) ∧ ∀ name, path.split.1 ≠ some (.name name) := by
  unfold split
  split
  · exact ⟨fun piece member => slashless_of_mem_pieces member, by simp⟩
  · -- A leading dot is cut off the pieces, and the others stay.
    split
    · rename_i rest found
      exact ⟨fun piece member => slashless_of_mem_pieces (found ▸ List.mem_cons_of_mem _ member), by simp⟩
    · exact ⟨fun piece member => slashless_of_mem_pieces member, by simp⟩

/-- A piece that stands for a name is that name. -/
theorem partOf?_eq_name {piece : List Char} (found : partOf? piece = some (.name name)) : piece = name := by
  unfold partOf? at found
  split at found
  · -- Empty pieces and dots are no names.
    cases found
  split at found
  · cases found
  · cases found
    rfl

/-- A name among the parts of a path is a piece that stands for itself. -/
theorem isPiece_of_mem_parts (member : Part.name name ∈ path.parts) :
    IsPiece name ∧ partOf? name = some (.name name) := by
  obtain ⟨slashless, start⟩ := path.split_pieces
  rcases List.mem_append.mp member with first | later
  · -- The start of the path is a root or a dot, but never a name.
    exact absurd (Option.mem_toList.mp first) (start name)
  · obtain ⟨piece, inside, found⟩ := List.mem_filterMap.mp later
    obtain rfl := partOf?_eq_name found
    exact ⟨⟨by rw [found]; rfl, slashless _ inside⟩, found⟩

/-- The name of a file is the name of the path that it is. -/
theorem EndsWith.alone (ends : path.EndsWith name) : (Path.mk name).EndsWith name := by
  -- A name has no slash in it, so it is a path of a single piece.
  obtain ⟨front, whole⟩ := ends
  have member : Part.name name ∈ path.parts := by simp [whole]
  obtain ⟨isPiece, found⟩ := isPiece_of_mem_parts member
  have single : pieces name = [name] := pieces_slashless isPiece.slashless
  have parts : (Path.mk name).split = (none, [name]) := by
    unfold split
    split
    · rename_i rest begins
      have begins' : name = '/' :: rest := begins
      exact absurd (begins' ▸ List.mem_cons_self) isPiece.slashless
    · rw [show pieces (Path.mk name).chars = [name] from single]
      split
      · -- A dot alone is no name.
        rename_i dotted
        obtain rfl := (List.cons.inj dotted).1
        cases found
      · rfl
  refine ⟨[], ?_⟩
  rw [Path.parts, parts]
  simp [found]

end ModuleScope.Path
