import ModuleScope.Unicode.CharSet

/-! Membership in sets of characters that are made of ranges. -/

namespace ModuleScope.Unicode.CharSet

/-- A set of one character holds no other. -/
theorem single_contains (c other : Char) :
    (single c).contains other = true ↔ other = c := by
  rw [← Char.toNat_inj]
  -- Membership is a comparison of code points.
  simp [single, ofCode, contains, containsCode]
  omega

variable {set : CharSet} {code : Nat}

/-- A code point of the set lies in one of the ranges. -/
theorem containsCode_iff : set.containsCode code = true ↔
    ∃ range ∈ set.ranges, range.1 ≤ code ∧ code ≤ range.2 := by
  simp [containsCode, List.any_eq_true]

/-- Below the surrogates joining ranges adds nothing. -/
theorem joinFrom_below (low : code ≤ 0xD7FF) {current : Nat × Nat} {ranges : List (Nat × Nat)}
    {range : Nat × Nat} (member : range ∈ joinFrom current ranges) (inside : range.1 ≤ code ∧ code ≤ range.2) :
    ∃ range ∈ current :: ranges, range.1 ≤ code ∧ code ≤ range.2 := by
  induction ranges generalizing current with
  | nil =>
    -- The last range is given as it is.
    obtain rfl := List.mem_singleton.mp member
    exact ⟨range, List.mem_cons_self, inside⟩
  | cons next ranges ih =>
    rw [joinFrom] at member
    split at member
    · -- The two ranges stay apart.
      rcases List.mem_cons.mp member with rfl | later
      · exact ⟨range, List.mem_cons_self, inside⟩
      · obtain ⟨found, among, held⟩ := ih later
        exact ⟨found, List.mem_cons_of_mem current among, held⟩
    · rename_i touch
      obtain ⟨found, among, held⟩ := ih member
      rcases List.mem_cons.mp among with rfl | among
      · -- What the joined range holds one of the two held before.
        by_cases first : code ≤ current.2
        · exact ⟨current, List.mem_cons_self, held.1, first⟩
        · refine ⟨next, List.mem_cons_of_mem current List.mem_cons_self, ?_, ?_⟩
          · have step : nextCode current.2 = current.2 + 1 := by
              unfold nextCode
              exact if_neg (by omega)
            omega
          · have upper : code ≤ max current.2 next.2 := held.2
            omega
      · exact ⟨found, List.mem_cons_of_mem current (List.mem_cons_of_mem next among), held⟩

/-- Below the surrogates a set of ranges holds what one of them holds. -/
theorem containsCode_ofRanges (low : code ≤ 0xD7FF) {ranges : List (Nat × Nat)}
    (held : (ofRanges ranges).containsCode code = true) : ∃ range ∈ ranges, range.1 ≤ code ∧ code ≤ range.2 := by
  unfold ofRanges at held
  split at held
  · -- Without ranges the set is empty.
    cases held
  · -- The ranges are put in order before they are joined.
    rename_i first rest sorted
    obtain ⟨range, member, inside⟩ := containsCode_iff.mp held
    obtain ⟨found, among, bounds⟩ := joinFrom_below low member inside
    rw [← sorted] at among
    exact ⟨found, List.mem_mergeSort.mp among, bounds⟩

end ModuleScope.Unicode.CharSet
