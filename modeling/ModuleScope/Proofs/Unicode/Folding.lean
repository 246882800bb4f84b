import ModuleScope.Proofs.Unicode.CharSet
import ModuleScope.Unicode.Folding

/-! Closing a set under changes of case adds no sign below 128. -/

namespace ModuleScope.Unicode

/-- The letters below 128. -/
def AsciiLetter (code : Nat) : Prop := 65 ≤ code ∧ code ≤ 90 ∨ 97 ≤ code ∧ code ≤ 122

instance (code : Nat) : Decidable (AsciiLetter code) :=
  inferInstanceAs (Decidable (65 ≤ code ∧ code ≤ 90 ∨ 97 ≤ code ∧ code ≤ 122))

/-- No other character differs from this one in case alone. -/
def Caseless (code : Nat) : Prop := ∀ orbit ∈ caseOrbits, code ∉ orbit

section Table

variable {test : Nat → Bool} {text : List Char}

/-- Every number of the groups that are read of a text passes a test. -/
def Passing (test : Nat → Bool) (text : List Char) : Prop :=
  ∀ orbit ∈ readGroups [] 0 text, ∀ code ∈ orbit, test code = true

instance : Decidable (Passing test text) :=
  inferInstanceAs (Decidable (∀ orbit ∈ readGroups [] 0 text, ∀ code ∈ orbit, test code = true))

/-- A row of the table ends with a blank, and its numbers pass the test; the first one goes on with `current`. -/
def passes (test : Nat → Bool) (current : Nat) : List Char → Bool
  | [] => false
  | [c] => c = ' ' && test current
  | c :: rest =>
    if c = ',' || c = ' ' then test current && passes test 0 rest
    else passes test (10 * current + (c.toNat - '0'.toNat)) rest

/-- The numbers of a row pass the test in front of numbers that pass it. -/
theorem passing_of_passes {row : List Char} {group : List Nat} {current : Nat}
    (begun : ∀ code ∈ group, test code = true) (row_passes : passes test current row = true)
    (later : Passing test text) :
    ∀ orbit ∈ readGroups group current (row ++ text), ∀ code ∈ orbit, test code = true := by
  have apart : ' ' ≠ ',' := by decide
  -- The cases are those of the check of a row, which goes on as the groups are read.
  fun_induction passes test current row generalizing group with
  | case1 => cases row_passes
  | case2 current c =>
    -- The blank at the end of the row ends its last group.
    simp only [Bool.and_eq_true, decide_eq_true_eq] at row_passes
    obtain ⟨rfl, good⟩ := row_passes
    simp only [List.cons_append, List.nil_append, readGroups, apart, if_false, if_true, List.mem_cons]
    rintro orbit (rfl | among) code member
    · rcases List.mem_cons.mp (List.mem_reverse.mp member) with rfl | older
      · exact good
      · exact begun code older
    · exact later orbit among code member
  | case3 current c rest _ sep ih =>
    simp only [Bool.and_eq_true] at row_passes
    simp only [Bool.or_eq_true, decide_eq_true_eq] at sep
    -- A comma goes on with the group, and a blank starts another one.
    rcases sep with rfl | rfl
    · simp only [List.cons_append, readGroups, if_true]
      exact ih (List.forall_mem_cons.mpr ⟨row_passes.1, begun⟩) row_passes.2
    · simp only [List.cons_append, readGroups, apart, if_false, if_true, List.mem_cons]
      rintro orbit (rfl | among) code member
      · rcases List.mem_cons.mp (List.mem_reverse.mp member) with rfl | older
        · exact row_passes.1
        · exact begun code older
      · exact ih (List.forall_mem_nil _) row_passes.2 orbit among code member
  | case4 current c rest _ sep ih =>
    -- Any other character is a digit of the current number.
    simp only [Bool.or_eq_true, decide_eq_true_eq, not_or] at sep
    simp only [List.cons_append, readGroups, sep.1, sep.2, if_false]
    exact ih begun row_passes

/-- The numbers of some rows pass a test, whatever the rows after them are. -/
def RowsPass (test : Nat → Bool) (rows : String) : Prop :=
  ∀ text, Passing test text → Passing test (rows.toList ++ text)

/-- One row of the table. -/
theorem RowsPass.row {row : List Char} (passing : passes test 0 row = true) :
    RowsPass test (String.ofList row) := by
  intro text later
  rw [String.toList_ofList]
  exact passing_of_passes (List.forall_mem_nil _) passing later

/-- Rows one after the other. -/
theorem RowsPass.append {first second : String} (one : RowsPass test first) (two : RowsPass test second) :
    RowsPass test (first ++ second) := by
  intro text later
  rw [String.toList_append, List.append_assoc]
  exact one _ (two text later)

/-- Rows and the last one, which needs no blank. -/
theorem RowsPass.last {rows : String} {row : List Char} (front : RowsPass test rows)
    (back : Passing test row) : Passing test (rows ++ String.ofList row).toList := by
  rw [String.toList_append, String.toList_ofList]
  exact front row back

end Table

/-- The characters below 128 that have another case are letters. -/
def mayHaveCase (code : Nat) : Bool := 128 ≤ code || AsciiLetter code

set_option maxRecDepth 4000 in
/-- The table holds no other number below 128. -/
theorem caseOrbitText_passing : Passing mayHaveCase caseOrbitText.toList := by
  unfold caseOrbitText
  -- The table is checked row by row: the rows are few characters each, the table is too long to be evaluated.
  refine RowsPass.last ?_ (by decide +kernel)
  repeat' with_reducible refine RowsPass.append ?_ ?_
  all_goals exact RowsPass.row (by decide +kernel)

/-- Below 128 only letters have another case. -/
theorem caseless_of_ascii {code : Nat} (low : code < 128) (sign : ¬AsciiLetter code) : Caseless code := by
  intro orbit among member
  -- A sign in a group of the table would have to be a letter.
  have known := caseOrbitText_passing orbit among code member
  simp only [mayHaveCase, Bool.or_eq_true, decide_eq_true_eq] at known
  exact known.elim (Nat.not_le.mpr low) sign

namespace CharSet

variable {set : CharSet} {code : Nat}

/-- A character that is no letter is in the closed set only if it is in the set. -/
theorem containsCode_foldCase (low : code < 128) (sign : ¬AsciiLetter code)
    (held : set.foldCase.containsCode code = true) : set.containsCode code = true := by
  -- The closed set is made of the ranges of the set and of those that were added.
  obtain ⟨range, member, inside⟩ := containsCode_ofRanges (by omega) held
  rcases List.mem_append.mp member with own | added
  · exact containsCode_iff.mpr ⟨range, own, inside⟩
  · -- What has been added stands in a group of the table.
    obtain ⟨other, among, rfl⟩ := List.mem_map.mp added
    obtain ⟨orbit, kept, within⟩ := List.mem_flatten.mp among
    obtain rfl : other = code := Nat.le_antisymm inside.1 inside.2
    exact absurd within (caseless_of_ascii low sign orbit (List.mem_filter.mp kept).1)

/-- The same holds where only the case of letters below 128 counts. -/
theorem containsCode_foldAsciiCase (low : code < 128) (sign : ¬AsciiLetter code)
    (held : set.foldAsciiCase.containsCode code = true) : set.containsCode code = true := by
  obtain ⟨range, member, inside⟩ := containsCode_ofRanges (by omega) held
  rcases List.mem_append.mp member with own | added
  · exact containsCode_iff.mpr ⟨range, own, inside⟩
  · -- What has been added is a letter in one case or the other.
    obtain ⟨letter, among, within⟩ := List.mem_flatMap.mp added
    have last : letter < 26 := List.mem_range.mp among
    split at within
    · simp only [List.mem_cons, List.not_mem_nil, or_false] at within
      rcases within with rfl | rfl
      · exact absurd (.inl ⟨by omega, by omega⟩) sign
      · exact absurd (.inr ⟨by omega, by omega⟩) sign
    · cases within

end CharSet

end ModuleScope.Unicode
