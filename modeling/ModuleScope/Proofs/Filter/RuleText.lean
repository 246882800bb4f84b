import ModuleScope.Filter.RuleText

/-! The text of a coverage rule is split so that the assembly is as long as it can be. -/

namespace ModuleScope

/-- A character stands for a polarity just if it is the symbol of it. -/
theorem Polarity.ofSymbol?_eq_some {sign : Char} {polarity : Polarity} :
    ofSymbol? [sign] = some polarity ↔ sign = polarity.symbol := by
  constructor
  · intro found
    -- Only two symbols stand for anything.
    unfold ofSymbol? at found
    split at found
    · rename_i same
      cases found
      exact (List.cons.inj same).1
    · rename_i same
      cases found
      exact (List.cons.inj same).1
    · cases found
  · intro same
    subst same
    cases polarity <;> rfl

/-- Two polarities with one symbol are the same. -/
theorem Polarity.symbol_inj {one other : Polarity} (same : one.symbol = other.symbol) : one = other := by
  cases one with
  | inclusive =>
    cases other with
    | inclusive => rfl
    | exclusive => exact absurd same (by decide)
  | exclusive =>
    cases other with
    | inclusive => exact absurd same (by decide)
    | exclusive => rfl

namespace RuleText

/-- What is left of a text without its start. -/
theorem dropStart?_eq_some {mark text rest : List Char} :
    dropStart? mark text = some rest ↔ text = mark ++ rest := by
  unfold dropStart?
  constructor
  · intro dropped
    split at dropped
    · rename_i starts
      -- The mark is a prefix, and what is left is what follows it.
      obtain ⟨after, rfl⟩ := List.isPrefixOf_iff_prefix.mp starts
      rw [List.drop_left] at dropped
      rw [Option.some.inj dropped]
    · cases dropped
  · intro same
    subst same
    rw [if_pos (List.isPrefixOf_iff_prefix.mpr (List.prefix_append mark rest)), List.drop_left]

/-- What is left of a text without its end. -/
theorem dropEnd?_eq_some {mark text rest : List Char} :
    dropEnd? mark text = some rest ↔ text = rest ++ mark := by
  -- Both texts are reversed, and what is left is turned round again.
  simp only [dropEnd?, Option.map_eq_some_iff, dropStart?_eq_some]
  constructor
  · intro dropped
    obtain ⟨reversed, same, rfl⟩ := dropped
    have forward := congrArg List.reverse same
    simpa using forward
  · intro same
    subst same
    exact ⟨rest.reverse, by simp, by simp⟩

/-- A text is split where the mark stands with something after it. -/
theorem splitAtLast?_sound {mark text before after : List Char}
    (split : splitAtLast? mark text = some (before, after)) : text = before ++ mark ++ after ∧ after ≠ [] := by
  induction text generalizing before with
  | nil => cases split
  | cons c rest ih =>
    rw [splitAtLast?] at split
    cases later : splitAtLast? mark rest with
    | some pair =>
      -- A later place has been found, and `c` stands before it.
      obtain ⟨middle, last⟩ := pair
      rw [later] at split
      cases split
      obtain ⟨rfl, left⟩ := ih later
      exact ⟨rfl, left⟩
    | none =>
      rw [later] at split
      simp only [Bool.and_eq_true, decide_eq_true_eq] at split
      split at split
      · -- The mark stands here, and the text is longer than the mark.
        rename_i here
        cases split
        obtain ⟨rest', same⟩ := List.isPrefixOf_iff_prefix.mp here.1
        have left := here.2
        rw [← same, List.length_append] at left
        rw [← same, List.drop_left, List.nil_append]
        refine ⟨rfl, fun none => ?_⟩
        rw [none] at left
        exact absurd left (Nat.lt_irrefl _)
      · cases split

/-- A text is split at the last such place. -/
theorem splitAtLast?_last (mark : List Char) (before : List Char) {after : List Char} (left : after ≠ []) :
    ∃ before' after', splitAtLast? mark (before ++ mark ++ after) = some (before', after') ∧
      before.length ≤ before'.length := by
  induction before with
  | nil =>
    obtain ⟨c, rest, same⟩ := List.exists_cons_of_ne_nil (List.append_ne_nil_of_right_ne_nil mark left)
    rw [List.nil_append, same, splitAtLast?]
    cases splitAtLast? mark rest with
    | some pair => exact ⟨c :: pair.1, pair.2, rfl, Nat.zero_le _⟩
    | none =>
      -- No place comes later, so this one is taken.
      have here : mark.isPrefixOf (c :: rest) = true ∧ mark.length < (c :: rest).length := by
        rw [← same, List.length_append]
        have some' := List.length_pos_iff.mpr left
        exact ⟨List.isPrefixOf_iff_prefix.mpr (List.prefix_append mark after), by omega⟩
      refine ⟨[], (c :: rest).drop mark.length, ?_, Nat.zero_le _⟩
      simp only [here.1, here.2, decide_true, Bool.and_self, if_true]
  | cons c before ih =>
    -- The place is found later in the text, so it is found here as well.
    obtain ⟨before', after', later, longer⟩ := ih
    refine ⟨c :: before', after', ?_, Nat.succ_le_succ longer⟩
    rw [List.cons_append, List.cons_append, splitAtLast?, later]

/-- The text is the rule with these parts, written in the shape. -/
def Splits (shape : Shape) (text : List Char) (parts : RuleText) : Prop :=
  parts.WellFormed ∧ write shape parts = text

/-- The text is the rule with these parts, and it is no rule with a longer assembly. -/
def SplitsLast (shape : Shape) (text : List Char) (parts : RuleText) : Prop :=
  Splits shape text parts ∧ ∀ other, Splits shape text other → other.assembly.length ≤ parts.assembly.length

/-- A line feed in a rule stands in its assembly or in its class. -/
theorem newline_mem_inner (shape : Shape) (assembly className : List Char) :
    '\n' ∈ assembly ++ shape.middle ++ className ↔ '\n' ∈ assembly ∨ '\n' ∈ className := by
  -- What stands between them are brackets and parentheses.
  have middle : '\n' ∉ shape.middle := by cases shape <;> decide
  simp [middle]

/-- The parts of a text are what it is split into. -/
theorem ofText?_sound {shape : Shape} {text : List Char} {parts : RuleText}
    (read : ofText? shape text = some parts) : Splits shape text parts := by
  -- Each part of the text that has been taken off is put back.
  unfold ofText? at read
  split at read
  · rename_i sign rest
    simp only [Option.bind_eq_bind, Option.bind_eq_some_iff] at read
    obtain ⟨polarity, known, opened, starts, inner, ends, read⟩ := read
    split at read
    · rename_i first inner
      obtain ⟨⟨before, className⟩, split', read⟩ := Option.bind_eq_some_iff.mp read
      -- Each piece is put back in the place from which it was taken.
      obtain ⟨rfl, left⟩ := splitAtLast?_sound split'
      obtain rfl := dropEnd?_eq_some.mp ends
      obtain rfl := dropStart?_eq_some.mp starts
      obtain rfl := Polarity.ofSymbol?_eq_some.mp known
      simp only at read
      split at read
      · cases read
      · rename_i oneLine
        cases read
        rw [List.contains_iff_mem, ← List.cons_append, ← List.cons_append, newline_mem_inner, not_or] at oneLine
        refine ⟨⟨List.cons_ne_nil _ _, left, oneLine.1, oneLine.2⟩, ?_⟩
        simp [write]
    · cases read
  · cases read

/-- A rule that has been written is split again, and its assembly has not become shorter. -/
theorem ofText?_write {shape : Shape} {parts : RuleText} (formed : parts.WellFormed) :
    ∃ found, ofText? shape (write shape parts) = some found ∧
      parts.assembly.length ≤ found.assembly.length := by
  obtain ⟨filled, left, oneLine, oneLine'⟩ := formed
  obtain ⟨polarity, assembly, className⟩ := parts
  obtain ⟨first, before, rfl⟩ := List.exists_cons_of_ne_nil filled
  -- The place between the parts is one where the text may be split, and no later one is passed over.
  obtain ⟨before', after', split', longer⟩ := splitAtLast?_last shape.middle before left
  have known : Polarity.ofSymbol? [polarity.symbol] = some polarity := Polarity.ofSymbol?_eq_some.mpr rfl
  have inner : (shape.opening ++ (first :: before) ++ shape.middle ++ className ++ shape.closing) =
      shape.opening ++ ((first :: (before ++ shape.middle ++ className)) ++ shape.closing) := by simp
  -- Neither part has a line feed, so none is in the way.
  have inLine : (first :: (before ++ shape.middle ++ className)).contains '\n' = false := by
    rw [← Bool.not_eq_true, List.contains_iff_mem, ← List.cons_append, ← List.cons_append, newline_mem_inner, not_or]
    exact ⟨oneLine, oneLine'⟩
  refine ⟨⟨polarity, first :: before', after'⟩, ?_, Nat.succ_le_succ longer⟩
  simp only [write, ofText?, known, inner, Option.bind_eq_bind, Option.bind_some, dropStart?_eq_some.mpr rfl,
    dropEnd?_eq_some.mpr rfl, split', inLine, Bool.false_eq_true, if_false]

/-- A text is a rule just if parts of it are found. -/
theorem ofText?_eq_none {shape : Shape} {text : List Char} :
    ofText? shape text = none ↔ ∀ parts, ¬Splits shape text parts := by
  constructor
  · -- A text with parts is split somehow, if not into these.
    intro none parts splits
    obtain ⟨formed, rfl⟩ := splits
    obtain ⟨found, read, _⟩ := ofText?_write formed
    cases none.symm.trans read
  · intro nothing
    cases read : ofText? shape text with
    | none => rfl
    | some parts => exact absurd (ofText?_sound read) (nothing parts)

/-- A rule is known by the length of its assembly. -/
theorem Splits.eq_of_length {shape : Shape} {text : List Char} {one other : RuleText}
    (first : Splits shape text one) (second : Splits shape text other)
    (same : one.assembly.length = other.assembly.length) : one = other := by
  obtain ⟨polarity, assembly, className⟩ := one
  obtain ⟨polarity', assembly', className'⟩ := other
  have written := first.2.trans second.2.symm
  simp only [write, List.append_assoc, List.cons.injEq, List.append_cancel_left_eq] at written
  -- The texts agree from left to right, and the assemblies end at the same place.
  obtain ⟨symbol, inner⟩ := written
  obtain rfl := Polarity.symbol_inj symbol
  obtain ⟨rfl, rest⟩ := List.append_inj inner same
  rw [List.append_cancel_left_eq, List.append_cancel_right_eq] at rest
  rw [rest]

/-- A rule in the plain shape with a longer assembly is split at a closing bracket of the class. -/
theorem Splits.overlap {text : List Char} {one other : RuleText} (first : Splits .plain text one)
    (second : Splits .plain text other) :
    other.assembly.length ≤ one.assembly.length ∨
      ∃ middle, other.assembly = one.assembly ++ ']' :: middle ∧
        one.className = middle ++ ']' :: other.className := by
  have written := second.2.trans first.2.symm
  simp only [write, Shape.opening, Shape.middle, Shape.closing, List.append_nil, List.cons_append,
    List.nil_append, List.append_assoc, List.cons.injEq, true_and] at written
  -- One of the assemblies goes on after the other has ended.
  rcases List.append_eq_append_iff.mp written.2 with ⟨middle, same, rest⟩ | ⟨middle, same, rest⟩
  · rw [same, List.length_append]
    exact Or.inl (Nat.le_add_right _ _)
  · cases middle with
    | nil =>
      rw [same, List.append_nil]
      exact Or.inl (Nat.le_refl _)
    | cons c middle =>
      obtain rfl := (List.cons.inj rest).1
      exact Or.inr ⟨middle, same, (List.cons.inj rest).2⟩

/-- The parts of a text are those with the longest assembly. -/
theorem ofText?_eq_some {shape : Shape} {text : List Char} {parts : RuleText} :
    ofText? shape text = some parts ↔ SplitsLast shape text parts := by
  have last : ∀ found, ofText? shape text = some found → SplitsLast shape text found := by
    intro found read
    refine ⟨ofText?_sound read, fun other splits => ?_⟩
    obtain ⟨formed, rfl⟩ := splits
    obtain ⟨found', read', longer⟩ : ∃ found', ofText? shape (write shape other) = some found' ∧
      other.assembly.length ≤ found'.assembly.length := ofText?_write formed
    obtain rfl := Option.some.inj (read.symm.trans read')
    exact longer
  constructor
  · exact last parts
  · intro last
    obtain ⟨⟨formed, rfl⟩, longest⟩ := last
    obtain ⟨found, read, longer⟩ := ofText?_write formed
    -- What is found is as long on both sides, so it is the same.
    have shorter := longest found (ofText?_sound read)
    rw [read]
    exact congrArg some ((ofText?_sound read).eq_of_length ⟨formed, rfl⟩ (Nat.le_antisymm shorter longer))

/-- A text is of another shape if it has no parts in this one. -/
theorem parse_eq_none {shape : Shape} {text : String} :
    parse shape text = .ok none ↔ ∀ parts, ¬Splits shape text.toList parts := by
  rw [← ofText?_eq_none, parse]
  cases read : ofText? shape text.toList with
  | none => simp
  | some parts => cases blank : parts.isBlank <;> simp [blank]

/-- The parts of a text are those with the longest assembly, which is not blank. -/
theorem parse_eq_some {shape : Shape} {text : String} {parts : RuleText} :
    parse shape text = .ok (some parts) ↔ SplitsLast shape text.toList parts ∧ parts.isBlank = false := by
  rw [← ofText?_eq_some, parse]
  cases ofText? shape text.toList with
  | none => simp
  | some found =>
    simp only [Option.some.injEq]
    by_cases blank : found.isBlank = true
    · -- What is blank is refused, though it has been split.
      rw [if_pos blank]
      constructor
      · intro refused
        cases refused
      · intro last
        obtain ⟨rfl, filled⟩ := last
        cases blank.symm.trans filled
    · rw [if_neg blank]
      constructor
      · intro done
        cases done
        exact ⟨rfl, Bool.eq_false_iff.mpr blank⟩
      · intro last
        obtain ⟨rfl, _⟩ := last
        rfl

end RuleText

end ModuleScope
