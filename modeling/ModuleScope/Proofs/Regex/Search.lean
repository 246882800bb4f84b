import ModuleScope.Proofs.Regex.Spans
import ModuleScope.Regex.Search

/-! The search finds a match just when there is one. -/

namespace ModuleScope.Regex

open Unicode (CharSet)

/-- All positions of the set lie in a text of `size` characters. -/
def Within (size positions : Nat) : Prop :=
  ∀ position, positions.testBit position = true → position ≤ size

/-- What `step` makes of a set of positions are the positions that `leads` leads to from there. -/
def Follows (size : Nat) (step : Nat → Nat) (leads : Nat → Nat → Prop) : Prop :=
  ∀ starts, Within size starts → ∀ stop, (step starts).testBit stop = true ↔
    ∃ start, starts.testBit start = true ∧ leads start stop

/-- The upper bounds of repetitions are not below the lower ones. -/
def Ordered : Regex → Prop
  | empty | oneOf _ | assert _ => True
  | seq first second => Ordered first ∧ Ordered second
  | alt left right => Ordered left ∧ Ordered right
  | rep body low high => Ordered body ∧ ∀ most, high = some most → low ≤ most
  | capture body => Ordered body

/-- A sequence is ordered if each of its parts is. -/
theorem ordered_sequence {regexes : List Regex} (each : ∀ regex ∈ regexes, regex.Ordered) :
    (sequence regexes).Ordered := by
  induction regexes with
  | nil => trivial
  | cons regex rest ih =>
    have others := ih fun other member => each other (List.mem_cons_of_mem regex member)
    cases rest with
    | nil => exact each regex List.mem_cons_self
    | cons second rest => exact ⟨each regex List.mem_cons_self, others⟩

variable {size : Nat} {step : Nat → Nat} {leads : Nat → Nat → Prop}

/-- Positions that are led to lie in the text if each single one does. -/
theorem Follows.within (follows : Follows size step leads)
    (inside : ∀ start stop, leads start stop → stop ≤ size) {starts : Nat}
    (within : Within size starts) : Within size (step starts) := by
  intro stop member
  obtain ⟨start, _, led⟩ := (follows starts within stop).mp member
  exact inside start stop led

/-- The positions of the characters are those where the text has such a character. -/
theorem charPositions_testBit (holds : Char → Bool) (text : List Char) (position : Nat) :
    (charPositions holds text).testBit position = text[position]?.any holds := by
  induction text generalizing position with
  | nil => simp [charPositions]
  | cons c rest ih =>
    cases position with
    -- The lowest bit tells about the first character.
    | zero => cases found : holds c <;> simp [charPositions, found]
    | succ position =>
      -- The lowest bit is that of the first character.
      have half : (2 * charPositions holds rest + (holds c).toNat) / 2 = charPositions holds rest := by
        have small : (holds c).toNat < 2 := Bool.toNat_lt _
        omega
      rw [charPositions, Nat.testBit_add_one, half, ih]
      rfl

/-- The positions of an assertion are those of the text where it holds. -/
theorem assertPositions_testBit (assertion : Assertion) (before : Option Char) (text : List Char)
    (position : Nat) :
    (assertPositions assertion before text).testBit position = true ↔
      position ≤ text.length ∧ assertion.holdsBetween
        (if position = 0 then before else text[position - 1]?) text[position]? = true := by
  induction text generalizing before position with
  | nil =>
    cases position with
    | zero => cases found : assertion.holdsBetween before none <;> simp [assertPositions, found]
    | succ position => simp [assertPositions, Nat.testBit_bool_toNat]
  | cons c rest ih =>
    cases position with
    | zero => cases found : assertion.holdsBetween before (some c) <;> simp [assertPositions, found]
    | succ position =>
      -- Dropping the lowest bit leaves the positions of the rest.
      have half : (2 * assertPositions assertion (some c) rest +
          (assertion.holdsBetween before (some c)).toNat) / 2 =
          assertPositions assertion (some c) rest := by
        have small : (assertion.holdsBetween before (some c)).toNat < 2 := Bool.toNat_lt _
        omega
      rw [assertPositions, Nat.testBit_add_one, half, ih]
      cases position <;> simp

/-- A step that changes nothing changes nothing later. -/
theorem applyTimes_succ (step : Nat → Nat) (count positions : Nat) :
    applyTimes step (count + 1) positions = applyTimes step count (step positions) := by
  unfold applyTimes
  by_cases still : step positions = positions
  · -- Each of the steps that are left out stops at once.
    cases count <;> simp [still]
  · simp [still]
    cases count <;> rfl

/-- Applying a step several times leads where as many rounds lead. -/
theorem applyTimes_follows (follows : Follows size step leads)
    (inside : ∀ start stop, leads start stop → stop ≤ size) (count : Nat) :
    Follows size (applyTimes step count) (Iterate leads count) := by
  induction count with
  | zero =>
    -- No rounds stay where they are.
    intro starts _ stop
    simp [applyTimes, Iterate]
  | succ count ih =>
    intro starts within stop
    rw [applyTimes_succ, ih _ (follows.within inside within)]
    constructor
    · rintro ⟨middle, reached, rest⟩
      obtain ⟨start, member, now⟩ := (follows starts within middle).mp reached
      exact ⟨start, member, middle, now, rest⟩
    · rintro ⟨start, member, middle, now, rest⟩
      exact ⟨middle, (follows starts within middle).mpr ⟨start, member, now⟩, rest⟩

/-- The positions that are new after a step are those that were not reached before. -/
theorem testBit_new (after reached position : Nat) :
    (after ^^^ (after &&& reached)).testBit position = true ↔
      after.testBit position = true ∧ reached.testBit position = false := by
  rw [Nat.testBit_xor, Nat.testBit_and]
  cases after.testBit position <;> cases reached.testBit position <;> simp

/-- A position is among those of two kinds if it is of one of them. -/
theorem testBit_join (first second position : Nat) :
    (first ||| second).testBit position = true ↔
      first.testBit position = true ∨ second.testBit position = true := by
  rw [Nat.testBit_or, Bool.or_eq_true]

/-- Of the positions that are reached only the fresh ones may lead to others. -/
structure Frontier (size : Nat) (leads : Nat → Nat → Prop) (fresh reached : Nat) : Prop where
  /-- What is reached lies within the size. -/
  within : Within size reached
  /-- What is fresh is reached. -/
  part : ∀ position, fresh.testBit position = true → reached.testBit position = true
  /-- What is not fresh leads to what is reached. -/
  closed : ∀ start stop, reached.testBit start = true → leads start stop →
    fresh.testBit start = true ∨ reached.testBit stop = true

section

variable {fresh reached start stop : Nat}

/-- At first all positions are fresh. -/
theorem frontier_start (within : Within size reached) : Frontier size leads reached reached where
  within := within
  part _ member := member
  closed _ _ member _ := Or.inl member

/-- What is fresh lies within the size. -/
theorem Frontier.freshWithin (frontier : Frontier size leads fresh reached) : Within size fresh :=
  fun position member => frontier.within position (frontier.part position member)

/-- One round leads from what is reached to what is reached or new. -/
theorem Frontier.led (frontier : Frontier size leads fresh reached) (follows : Follows size step leads)
    (member : reached.testBit start = true) (now : leads start stop) :
    reached.testBit stop = true ∨ (step fresh ^^^ (step fresh &&& reached)).testBit stop = true := by
  rcases frontier.closed start stop member now with source | known
  · have after := (follows fresh frontier.freshWithin stop).mpr ⟨start, source, now⟩
    cases known : reached.testBit stop with
    | true => exact Or.inl rfl
    | false => exact Or.inr ((testBit_new ..).mpr ⟨after, known⟩)
  · exact Or.inl known

/-- After a round the new positions are the fresh ones. -/
theorem Frontier.next (frontier : Frontier size leads fresh reached) (follows : Follows size step leads)
    (inside : ∀ start stop, leads start stop → stop ≤ size) :
    Frontier size leads (step fresh ^^^ (step fresh &&& reached))
      (reached ||| (step fresh ^^^ (step fresh &&& reached))) where
  within position member := by
    rcases (testBit_join ..).mp member with old | new
    · exact frontier.within position old
    · exact follows.within inside frontier.freshWithin position ((testBit_new ..).mp new).1
  part position member := (testBit_join ..).mpr (Or.inr member)
  closed start middle member now := by
    -- What was reached before leads to what is reached now, and what is new is fresh.
    rcases (testBit_join ..).mp member with old | new
    · exact Or.inr ((testBit_join ..).mpr (frontier.led follows old now))
    · exact Or.inl new

end

/-- Closing under a step reaches what so many rounds reach. -/
theorem Frontier.closeTimes_testBit {fresh reached : Nat} (frontier : Frontier size leads fresh reached)
    (follows : Follows size step leads) (inside : ∀ start stop, leads start stop → stop ≤ size) (rounds stop : Nat) :
    (closeTimes step rounds fresh reached).testBit stop = true ↔
      ∃ count ≤ rounds, ∃ start, reached.testBit start = true ∧ Iterate leads count start stop := by
  induction rounds generalizing fresh reached with
  | zero =>
    -- Without rounds nothing is added.
    constructor
    · intro member
      exact ⟨0, Nat.le_refl 0, stop, member, rfl⟩
    · rintro ⟨count, none, start, member, path⟩
      cases Nat.le_zero.mp none
      cases path
      exact member
  | succ rounds ih =>
    unfold closeTimes
    by_cases none : step fresh ^^^ (step fresh &&& reached) = 0
    · -- Nothing leads out of what is reached.
      simp only [none, if_true]
      have closed : ∀ start middle, leads start middle → reached.testBit start = true →
          reached.testBit middle = true := by
        intro start middle now member
        simpa [none] using frontier.led follows member now
      constructor
      · intro member
        exact ⟨0, Nat.zero_le _, stop, member, rfl⟩
      · rintro ⟨count, _, start, member, path⟩
        exact path.keeps closed member
    · simp only [none, if_false]
      rw [ih (frontier.next follows inside)]
      constructor
      · rintro ⟨count, few, start, member, path⟩
        rcases (testBit_join ..).mp member with old | new
        · exact ⟨count, by omega, start, old, path⟩
        · -- One more round leads to what is new.
          obtain ⟨source, origin, now⟩ :=
            (follows fresh frontier.freshWithin start).mp ((testBit_new ..).mp new).1
          exact ⟨count + 1, by omega, source, frontier.part source origin, start, now, path⟩
      · rintro ⟨count, few, start, member, path⟩
        -- The first round leads to what was reached or is new, and the others go on from there.
        cases count with
        | zero => exact ⟨0, by omega, start, (testBit_join ..).mpr (Or.inl member), path⟩
        | succ count =>
          obtain ⟨middle, now, rest⟩ := path
          exact ⟨count, by omega, middle, (testBit_join ..).mpr (frontier.led follows member now), rest⟩

/-- What a repetition reaches is where some number of rounds within its bounds leads. -/
theorem closeTimes_follows (follows : Follows size step leads)
    (inside : ∀ start stop, leads start stop → start ≤ stop ∧ stop ≤ size) (low : Nat)
    {high : Option Nat} (ordered : ∀ most, high = some most → low ≤ most) :
    Follows size
      (fun starts => closeTimes step (high.elim (size + 1) (· - low))
        (applyTimes step low starts) (applyTimes step low starts))
      (fun start stop => ∃ count, low ≤ count ∧ (∀ most, high = some most → count ≤ most) ∧
        start ≤ size ∧ Iterate leads count start stop) := by
  intro starts within stop
  have within' := fun start stop now => (inside start stop now).2
  -- First come as many rounds as there must be.
  have least := applyTimes_follows follows within' low
  have leastWithin : Within size (applyTimes step low starts) := by
    intro middle member
    obtain ⟨start, origin, path⟩ := (least starts within middle).mp member
    exact (path.bounds inside (within start origin)).2
  rw [(frontier_start leastWithin).closeTimes_testBit follows within']
  constructor
  · rintro ⟨count, few, middle, member, path⟩
    obtain ⟨start, origin, before⟩ := (least starts within middle).mp member
    refine ⟨start, origin, low + count, by omega, fun most bound => ?_, within start origin,
      (iterate_add low count).mpr ⟨middle, before, path⟩⟩
    have enough := ordered most bound
    simp only [bound, Option.elim_some] at few
    omega
  · rintro ⟨start, origin, count, atLeast, atMost, _, path⟩
    -- The rounds beyond the least number are the ones that the closure adds.
    obtain ⟨extra, rfl⟩ := Nat.exists_eq_add_of_le atLeast
    obtain ⟨middle, before, after⟩ := (iterate_add low extra).mp path
    have member := (least starts within middle).mpr ⟨start, origin, before⟩
    cases high with
    | some most =>
      have bound := atMost most rfl
      exact ⟨extra, by simp only [Option.elim_some]; omega, middle, member, after⟩
    | none =>
      -- Without an upper bound rounds that stay are left out, and the size bounds the others.
      obtain ⟨fewer, short, direct⟩ := after.shorten fun start stop now => (inside start stop now).1
      have last := (after.bounds inside (leastWithin middle member)).2
      exact ⟨fewer, by simp only [Option.elim_none]; omega, middle, member, direct⟩

/-- One part after the other leads where the first part leads and the second one from there. -/
theorem seq_follows {first second : Marked} {leads' : Nat → Nat → Prop}
    (before : Follows size (first.stops size) leads) (after : Follows size (second.stops size) leads')
    (inside : ∀ start stop, leads start stop → stop ≤ size) :
    Follows size ((Marked.seq first second).stops size)
      fun start stop => ∃ middle, leads start middle ∧ leads' middle stop := by
  intro starts within stop
  have reaches : ((Marked.seq first second).stops size starts).testBit stop = true ↔
      ∃ middle, (first.stops size starts).testBit middle = true ∧ leads' middle stop := by
    rw [Marked.stops]
    -- The second part is not looked at if the first one stops nowhere.
    by_cases none : first.stops size starts = 0
    · simp [none]
    · simpa [none] using after _ (before.within inside within) stop
  rw [reaches]
  constructor
  · rintro ⟨middle, reached, rest⟩
    obtain ⟨start, member, now⟩ := (before starts within middle).mp reached
    exact ⟨start, member, middle, now, rest⟩
  · rintro ⟨start, member, middle, now, rest⟩
    exact ⟨middle, (before starts within middle).mpr ⟨start, member, now⟩, rest⟩

/-- The positions where a match can stop are computed from those where it can start. -/
theorem stops_follows (text : List Char) (regex : Regex) (ordered : regex.Ordered) :
    Follows text.length
      ((mark (fun set => charPositions set.contains text)
        (fun assertion => assertPositions assertion none text) regex).stops text.length)
      (Spans text regex) := by
  induction regex with
  | empty =>
    intro starts within stop
    constructor
    · intro member
      exact ⟨stop, member, rfl, within stop member⟩
    · rintro ⟨start, member, rfl, _⟩
      exact member
  | oneOf set =>
    intro starts within stop
    simp only [mark, Marked.stops, Nat.testBit_shiftLeft, Nat.testBit_and, charPositions_testBit]
    cases stop with
    | zero => simp [Spans]
    | succ stop =>
      -- The character is the one before the position where the match stops.
      simp only [Nat.le_add_left, decide_true, Bool.true_and, Nat.add_sub_cancel,
        Bool.and_eq_true, Option.any_eq_true]
      constructor
      · rintro ⟨member, c, found, belongs⟩
        exact ⟨stop, member, c, found, belongs, rfl⟩
      · rintro ⟨start, member, c, found, belongs, same⟩
        cases Nat.succ.inj same
        exact ⟨member, c, found, belongs⟩
  | assert assertion =>
    intro starts within stop
    simp only [mark, Marked.stops, Nat.testBit_and, Bool.and_eq_true, assertPositions_testBit]
    constructor
    · rintro ⟨member, inside, holds⟩
      exact ⟨stop, member, rfl, inside, holds⟩
    · rintro ⟨start, member, rfl, inside, holds⟩
      exact ⟨member, inside, holds⟩
  | seq first second firstIh secondIh =>
    -- The second part starts where the first one stops.
    exact seq_follows (firstIh ordered.1) (secondIh ordered.2) fun _ _ spans => spans.bounds.2
  | alt left right leftIh rightIh =>
    -- Both sides start at the same places.
    intro starts within stop
    simp only [mark, Marked.stops, Nat.testBit_or, Bool.or_eq_true,
      leftIh ordered.1 starts within stop, rightIh ordered.2 starts within stop]
    constructor
    · rintro (⟨start, member, spans⟩ | ⟨start, member, spans⟩)
      · exact ⟨start, member, Or.inl spans⟩
      · exact ⟨start, member, Or.inr spans⟩
    · rintro ⟨start, member, spans | spans⟩
      · exact Or.inl ⟨start, member, spans⟩
      · exact Or.inr ⟨start, member, spans⟩
  | rep body low high ih =>
    exact closeTimes_follows (ih ordered.1) (fun _ _ spans => spans.bounds) low ordered.2
  | capture body ih => exact ih ordered

/-- The search finds a match just when there is one. -/
theorem isMatch_iff_occurs {regex : Regex} (ordered : regex.Ordered) (text : List Char) :
    regex.isMatch text = true ↔ regex.Occurs text := by
  -- All positions of the text are possible starts.
  have all : Within text.length (Nat.pow 2 (text.length + 1) - 1) := by
    intro position member
    have inside : position < text.length + 1 := by
      simpa only [Nat.pow_eq, Nat.testBit_two_pow_sub_one, decide_eq_true_eq] using member
    omega
  have marks : regex.marked text = mark (fun set => charPositions set.contains text)
      (fun assertion => assertPositions assertion none text) regex := by
    -- The table only saves work.
    unfold marked
    exact congrArg (fun charsAt => mark charsAt _ regex) (funext fun set => lookupOr_table _ _ set)
  have follows := stops_follows text regex ordered _ all
  rw [← marks] at follows
  simp only [isMatch, ne_eq, decide_not, Bool.not_eq_true', decide_eq_false_iff_not]
  constructor
  · -- Some bit is set, and it stands for a stop.
    intro some
    obtain ⟨stop, member⟩ := Nat.exists_testBit_of_ne_zero some
    obtain ⟨start, _, spans⟩ := (follows stop).mp member
    exact ⟨start, stop, spans⟩
  · -- A match would set the bit of its stop.
    rintro ⟨start, stop, spans⟩ none
    have inside := spans.bounds
    have first : (Nat.pow 2 (text.length + 1) - 1).testBit start = true := by
      simp only [Nat.pow_eq, Nat.testBit_two_pow_sub_one, decide_eq_true_eq]
      omega
    have member := (follows stop).mpr ⟨start, first, spans⟩
    rw [none, Nat.zero_testBit] at member
    cases member

end ModuleScope.Regex
