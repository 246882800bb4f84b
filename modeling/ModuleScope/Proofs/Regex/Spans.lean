import ModuleScope.Regex.Basic

/-! Matches go forward through the text, and a repetition needs no more rounds than there are characters. -/

namespace ModuleScope

/-- Rounds that are taken one after the other are taken together. -/
theorem iterate_add {step : Nat → Nat → Prop} (first second : Nat) {start stop : Nat} :
    Iterate step (first + second) start stop ↔
      ∃ middle, Iterate step first start middle ∧ Iterate step second middle stop := by
  -- The first round of all is the first one of the first part.
  induction first generalizing start with
  | zero =>
    -- Without rounds the first part stays where it is.
    rw [Nat.zero_add]
    constructor
    · intro rest
      exact ⟨start, rfl, rest⟩
    · rintro ⟨_, rfl, rest⟩
      exact rest
  | succ first ih =>
    rw [Nat.succ_add]
    constructor
    · rintro ⟨next, now, rest⟩
      obtain ⟨middle, before, after⟩ := ih.mp rest
      exact ⟨middle, ⟨next, now, before⟩, after⟩
    · rintro ⟨middle, ⟨next, now, before⟩, after⟩
      exact ⟨next, now, ih.mpr ⟨middle, before, after⟩⟩

/-- What every round keeps is kept by all of them. -/
theorem Iterate.keeps {step : Nat → Nat → Prop} {Holds : Nat → Prop}
    (keeps : ∀ start stop, step start stop → Holds start → Holds stop) {count start stop : Nat}
    (rounds : Iterate step count start stop) (initially : Holds start) : Holds stop := by
  -- The first round leads to a position from which fewer rounds go on.
  induction count generalizing start with
  | zero =>
    cases rounds
    exact initially
  | succ count ih =>
    obtain ⟨middle, now, rest⟩ := rounds
    exact ih rest (keeps start middle now initially)

/-- Rounds that all go forward and stay inside do so together. -/
theorem Iterate.bounds {step : Nat → Nat → Prop} {size : Nat}
    (bounds : ∀ start stop, step start stop → start ≤ stop ∧ stop ≤ size) {count start stop : Nat}
    (inside : start ≤ size) (rounds : Iterate step count start stop) : start ≤ stop ∧ stop ≤ size := by
  induction count generalizing start with
  | zero =>
    cases rounds
    exact ⟨Nat.le_refl _, inside⟩
  | succ count ih =>
    obtain ⟨middle, now, rest⟩ := rounds
    -- The first round stays inside, so the others may start there.
    have first := bounds start middle now
    have later := ih first.2 rest
    exact ⟨Nat.le_trans first.1 later.1, later.2⟩

/-- Rounds that stay where they are can be left out, and then there are no more rounds than positions passed. -/
theorem Iterate.shorten {step : Nat → Nat → Prop} (forward : ∀ start stop, step start stop → start ≤ stop)
    {count start stop : Nat} (rounds : Iterate step count start stop) :
    ∃ fewer, start + fewer ≤ stop ∧ Iterate step fewer start stop := by
  induction count generalizing start with
  | zero =>
    cases rounds
    -- Where there are no rounds there are none to leave out.
    exact ⟨0, Nat.le_refl _, rfl⟩
  | succ count ih =>
    obtain ⟨middle, now, rest⟩ := rounds
    obtain ⟨fewer, short, path⟩ := ih rest
    by_cases still : middle = start
    · -- The first round has led nowhere.
      exact ⟨fewer, still ▸ short, still ▸ path⟩
    · -- The first round has gone forward, so there is room for it.
      have ahead := forward start middle now
      exact ⟨fewer + 1, by omega, middle, now, path⟩

namespace Regex

/-- A match stops where it starts or later, and inside the text. -/
theorem Spans.bounds {text : List Char} {regex : Regex} {start stop : Nat}
    (spans : Spans text regex start stop) : start ≤ stop ∧ stop ≤ text.length := by
  induction regex generalizing start stop with
  | empty =>
    -- Conditions and the empty regex take no character, a set takes one.
    obtain ⟨rfl, inside⟩ := spans
    exact ⟨Nat.le_refl _, inside⟩
  | oneOf set =>
    obtain ⟨c, found, _, rfl⟩ := spans
    have inside := (List.getElem?_eq_some_iff.mp found).1
    omega
  | assert assertion =>
    obtain ⟨rfl, inside, _⟩ := spans
    exact ⟨Nat.le_refl _, inside⟩
  | seq first second firstIh secondIh =>
    obtain ⟨middle, before, after⟩ := spans
    have left := firstIh before
    have right := secondIh after
    omega
  | alt left right leftIh rightIh =>
    rcases spans with spans | spans
    · exact leftIh spans
    · exact rightIh spans
  | rep body low high ih =>
    -- Each round goes forward.
    obtain ⟨count, _, _, inside, rounds⟩ := spans
    exact rounds.bounds (fun _ _ round => ih round) inside
  | capture body ih => exact ih spans

/-- The start of a text is the position zero. -/
theorem textStart_iff {text : List Char} {position : Nat} :
    (position ≤ text.length ∧ Assertion.textStart.holdsAt text position = true) ↔ position = 0 := by
  constructor
  · rintro ⟨inside, holds⟩
    by_cases first : position = 0
    · exact first
    · -- Every later position has a character before it.
      simp [Assertion.holdsAt, Assertion.holdsBetween, first] at holds
      omega
  · rintro rfl
    exact ⟨Nat.zero_le _, rfl⟩

/-- The end of a text is the position after its last character. -/
theorem textEnd_iff {text : List Char} {position : Nat} :
    (position ≤ text.length ∧ Assertion.textEnd.holdsAt text position = true) ↔
      position = text.length := by
  -- Behind the last character, and only there, no character comes next.
  simp only [Assertion.holdsAt, Assertion.holdsBetween, Option.isNone_iff_eq_none,
    List.getElem?_eq_none_iff]
  omega

/-- Between the anchors of a text a regex matches the whole text. -/
theorem occurs_between_anchors {text : List Char} {regex : Regex} :
    (seq (assert .textStart) (seq regex (assert .textEnd))).Occurs text ↔
      Spans text regex 0 text.length := by
  constructor
  · -- The anchors leave only one start and one stop.
    rintro ⟨start, stop, _, ⟨rfl, first⟩, _, spans, rfl, last⟩
    rwa [textStart_iff.mp first, textEnd_iff.mp last] at spans
  · intro spans
    exact ⟨0, text.length, 0, ⟨rfl, textStart_iff.mpr rfl⟩, text.length, spans, rfl, textEnd_iff.mpr rfl⟩

/-- Regexes one after the other. -/
def sequence : List Regex → Regex
  | [] => empty
  | [regex] => regex
  | regex :: rest => seq regex (sequence rest)

/-- A sequence matches with its first part and then with the others. -/
theorem spans_sequence_cons {text : List Char} {regex : Regex} {rest : List Regex} {start stop : Nat} :
    Spans text (sequence (regex :: rest)) start stop ↔
      ∃ middle, Spans text regex start middle ∧ Spans text (sequence rest) middle stop := by
  cases rest with
  | cons second rest => rfl
  | nil =>
    -- The empty rest matches where the only part stops.
    constructor
    · intro spans
      exact ⟨stop, spans, rfl, spans.bounds.2⟩
    · rintro ⟨_, spans, rfl, _⟩
      exact spans

end Regex

end ModuleScope
