import ModuleScope.Proofs.Regex.Search

/-! A match depends only on the text that it covers and on the characters at its two ends. -/

namespace ModuleScope

/-- Nothing behind the next character matters to an assertion. -/
theorem Assertion.holdsAt_append (assertion : Assertion) {text : List Char} {position : Nat}
    (inside : position < text.length) (more : List Char) :
    assertion.holdsAt (text ++ more) position = assertion.holdsAt text position := by
  have before : (text ++ more)[position - 1]? = text[position - 1]? :=
    List.getElem?_append_left (by omega)
  unfold holdsAt
  rw [List.getElem?_append_left inside, before]

/-- Nothing before the last character matters to an assertion. -/
theorem Assertion.holdsAt_append_left (assertion : Assertion) (front : List Char) {text : List Char}
    {position : Nat} (some : 0 < position) :
    assertion.holdsAt (front ++ text) (front.length + position) = assertion.holdsAt text position := by
  have before : front.length + position - 1 = front.length + (position - 1) := by omega
  have first : front.length + position ≠ 0 := by omega
  unfold holdsAt
  rw [if_neg first, if_neg (Nat.pos_iff_ne_zero.mp some), before, List.getElem?_append_right (by omega),
    List.getElem?_append_right (by omega), Nat.add_sub_cancel_left, Nat.add_sub_cancel_left]

namespace Regex

variable {text : List Char} {regex : Regex} {start stop : Nat}

/-- Every character that a match covers belongs to a set of the regex. -/
theorem Spans.covers {position : Nat} (spans : Spans text regex start stop) (after : start ≤ position)
    (before : position < stop) :
    ∃ c, text[position]? = some c ∧ ∃ set ∈ regex.sets, set.contains c = true := by
  induction regex generalizing start stop with
  | empty =>
    obtain ⟨rfl, _⟩ := spans
    omega
  | oneOf set =>
    obtain ⟨c, found, member, rfl⟩ := spans
    obtain rfl : position = start := by omega
    exact ⟨c, found, set, List.mem_singleton_self set, member⟩
  | assert assertion =>
    obtain ⟨rfl, _⟩ := spans
    omega
  | seq first second firstIh secondIh =>
    obtain ⟨middle, one, two⟩ := spans
    -- The position lies in the first or in the second part.
    rcases Nat.lt_or_ge position middle with early | late
    · obtain ⟨c, found, set, member, held⟩ := firstIh one after early
      exact ⟨c, found, set, List.mem_append_left _ member, held⟩
    · obtain ⟨c, found, set, member, held⟩ := secondIh two late before
      exact ⟨c, found, set, List.mem_append_right _ member, held⟩
  | alt left right leftIh rightIh =>
    rcases spans with spans | spans
    · obtain ⟨c, found, set, member, held⟩ := leftIh spans after before
      exact ⟨c, found, set, List.mem_append_left _ member, held⟩
    · obtain ⟨c, found, set, member, held⟩ := rightIh spans after before
      exact ⟨c, found, set, List.mem_append_right _ member, held⟩
  | rep body low high ih =>
    obtain ⟨count, least, most, within, rounds⟩ := spans
    clear least most within
    -- The position lies in one of the rounds.
    induction count generalizing start with
    | zero =>
      cases rounds
      omega
    | succ count again =>
      obtain ⟨middle, now, later⟩ := rounds
      rcases Nat.lt_or_ge position middle with early | late
      · exact ih now after early
      · exact again late later
  | capture body ih => exact ih spans after before

/-- A match that stops before the end of the text is one in every longer text. -/
theorem Spans.append (spans : Spans text regex start stop) (inside : stop < text.length) (more : List Char) :
    Spans (text ++ more) regex start stop := by
  have longer : (text ++ more).length = text.length + more.length := List.length_append
  induction regex generalizing start stop with
  | empty =>
    obtain ⟨rfl, _⟩ := spans
    exact ⟨rfl, by omega⟩
  | oneOf set =>
    obtain ⟨c, found, member, rfl⟩ := spans
    exact ⟨c, (List.getElem?_append_left (by omega)).trans found, member, rfl⟩
  | assert assertion =>
    obtain ⟨rfl, _, holds⟩ := spans
    exact ⟨rfl, by omega, (assertion.holdsAt_append inside more).trans holds⟩
  | seq first second firstIh secondIh =>
    obtain ⟨middle, one, two⟩ := spans
    -- The first part stops before the second one does.
    have ahead := two.bounds.1
    exact ⟨middle, firstIh one (by omega), secondIh two inside⟩
  | alt left right leftIh rightIh =>
    exact spans.imp (fun spans => leftIh spans inside) fun spans => rightIh spans inside
  | rep body low high ih =>
    obtain ⟨count, least, most, within, rounds⟩ := spans
    refine ⟨count, least, most, by omega, ?_⟩
    clear least most
    -- No round goes past the last one.
    induction count generalizing start with
    | zero => exact rounds
    | succ count again =>
      obtain ⟨middle, now, later⟩ := rounds
      have ahead := (later.bounds (fun _ _ round => round.bounds) now.bounds.2).1
      exact ⟨middle, ih now (by omega), again now.bounds.2 later⟩
  | capture body ih => exact ih spans inside

/-- A match that starts after the start of the text is one behind every other text. -/
theorem Spans.append_left (spans : Spans text regex start stop) (some : 0 < start) (front : List Char) :
    Spans (front ++ text) regex (front.length + start) (front.length + stop) := by
  have longer : (front ++ text).length = front.length + text.length := List.length_append
  induction regex generalizing start stop with
  | empty =>
    obtain ⟨rfl, _⟩ := spans
    exact ⟨rfl, by omega⟩
  | oneOf set =>
    obtain ⟨c, found, member, rfl⟩ := spans
    refine ⟨c, ?_, member, by omega⟩
    rw [List.getElem?_append_right (by omega), Nat.add_sub_cancel_left]
    exact found
  | assert assertion =>
    obtain ⟨rfl, _, holds⟩ := spans
    exact ⟨rfl, by omega, (assertion.holdsAt_append_left front some).trans holds⟩
  | seq first second firstIh secondIh =>
    obtain ⟨middle, one, two⟩ := spans
    have ahead := one.bounds.1
    exact ⟨front.length + middle, firstIh one some, secondIh two (by omega)⟩
  | alt left right leftIh rightIh =>
    exact spans.imp (fun spans => leftIh spans some) fun spans => rightIh spans some
  | rep body low high ih =>
    obtain ⟨count, least, most, within, rounds⟩ := spans
    refine ⟨count, least, most, by omega, ?_⟩
    clear least most within
    -- Every round starts where the first one does or later.
    induction count generalizing start with
    | zero => exact congrArg (front.length + ·) rounds
    | succ count again =>
      obtain ⟨middle, now, later⟩ := rounds
      have ahead := now.bounds.1
      exact ⟨front.length + middle, ih now some, again (by omega) later⟩
  | capture body ih => exact ih spans some

/-- A regex that matches somewhere in a text with a character that it never covers matches in another text, too. -/
theorem Occurs.elsewhere (occurs : regex.Occurs text) {c : Char} (member : c ∈ text)
    (uncovered : ∀ set ∈ regex.sets, set.contains c = false) : ∃ other, other ≠ text ∧ regex.Occurs other := by
  obtain ⟨start, stop, spans⟩ := occurs
  obtain ⟨position, inside, here⟩ := List.getElem_of_mem member
  -- A match over the character would cover it.
  have apart : stop ≤ position ∨ position < start := by
    rcases Nat.lt_or_ge position stop with early | late
    · rcases Nat.lt_or_ge position start with before | after
      · exact .inr before
      · obtain ⟨found, same, set, among, held⟩ := spans.covers after early
        rw [List.getElem?_eq_getElem inside, here] at same
        cases same
        cases (uncovered set among).symm.trans held
    · exact .inl late
  -- The match leaves the character out, so there may be more on that side of it.
  rcases apart with before | behind
  · refine ⟨text ++ [c], fun same => ?_, start, stop, spans.append (by omega) [c]⟩
    have longer := congrArg List.length same
    simp at longer
  · refine ⟨[c] ++ text, fun same => ?_, _, _, spans.append_left (by omega) [c]⟩
    have longer := congrArg List.length same
    simp at longer

end Regex

end ModuleScope
