import Mathlib.Logic.Relation
import ModuleScope.Proofs.Discovery.Signals

/-! Families of tokens: which tokens see that one of them is cancelled, whatever has been made and cancelled before. -/

namespace ModuleScope

/-- How a token is made; tokens have numbers, in the order in which they are made. -/
inductive TokenOrigin
  /-- From nothing. -/
  | fresh
  /-- As a child of another token. -/
  | child (parent : Nat)
  /-- As another name for a token. -/
  | clone (source : Nat)
deriving DecidableEq, Repr

/-- What can be done with tokens. A token that is dropped changes no signal, so that is not among the moves. -/
inductive TokenMove
  /-- One more token is made. -/
  | make (origin : TokenOrigin)
  /-- A token is cancelled. -/
  | cancel (token : Nat)
deriving DecidableEq, Repr

/-- All tokens that have been made, and their signals. -/
structure TokenHistory where
  /-- The signals. -/
  signals : Signals := {}
  /-- The tokens by number. -/
  tokens : List CancelToken := []
deriving DecidableEq, Repr

namespace TokenHistory

/-- The token that is made, and the signals after that. -/
def made? (history : TokenHistory) : TokenOrigin → Option (CancelToken × Signals)
  | .fresh => some history.signals.newToken
  | .child parent => history.tokens[parent]?.map history.signals.childToken
  | .clone source => history.tokens[source]?.map fun token => (token, history.signals)

/-- The history after a move, if the token that it names is there. -/
def move? (history : TokenHistory) : TokenMove → Option TokenHistory
  | .make origin =>
    (history.made? origin).map fun (token, signals) => ⟨signals, history.tokens ++ [token]⟩
  | .cancel token =>
    history.tokens[token]?.map fun token => { history with signals := history.signals.cancel token }

/-- The history after several moves, if all of them are possible. -/
def play? (history : TokenHistory) : List TokenMove → Option TokenHistory
  | [] => some history
  | move :: rest => (history.move? move).bind fun next => next.play? rest

end TokenHistory

/-- How the tokens of some moves have been made, by number. -/
def originsOf (moves : List TokenMove) : List TokenOrigin :=
  moves.filterMap fun move =>
    match move with
    | .make origin => some origin
    | .cancel _ => none

/-- Two tokens come from the same one by cloning. -/
def Shares (origins : List TokenOrigin) : Nat → Nat → Prop :=
  Relation.EqvGen fun copy source => origins[copy]? = some (.clone source)

/-- A token, or one that it shares its signal with, has been made as a child of the other, or of a clone of it. -/
def IsParent (origins : List TokenOrigin) (parent token : Nat) : Prop :=
  ∃ born source, Shares origins token born ∧ origins[born]? = some (.child source) ∧ Shares origins source parent

/-- A parent, or a parent of one, and so on. -/
def IsAncestor (origins : List TokenOrigin) : Nat → Nat → Prop := Relation.TransGen (IsParent origins)

/-- A token with the signal of this one or of its parent has been cancelled. -/
def CancelledNear (moves : List TokenMove) (token : Nat) : Prop :=
  ∃ other, .cancel other ∈ moves ∧ (Shares (originsOf moves) other token ∨ IsParent (originsOf moves) other token)

/-- A token with the signal of this one or of one of its ancestors has been cancelled. -/
def CancelledInLine (moves : List TokenMove) (token : Nat) : Prop :=
  ∃ other, .cancel other ∈ moves ∧ (Shares (originsOf moves) other token ∨ IsAncestor (originsOf moves) other token)

/-- What stands at a place of a list with one more entry. -/
theorem getElem?_snoc {α : Type} {list : List α} {last entry : α} {place : Nat} :
    (list ++ [last])[place]? = some entry ↔ list[place]? = some entry ∨ place = list.length ∧ last = entry := by
  -- The place is inside the list, at its end or behind it.
  rcases Nat.lt_trichotomy place list.length with inside | rfl | outside
  · rw [List.getElem?_append_left inside]
    have different : place ≠ list.length := by omega
    simp [different]
  · simp
  · -- Behind the end there is nothing, with the new entry or without it.
    rw [List.getElem?_eq_none (by simp; omega), List.getElem?_eq_none (by omega)]
    have different : place ≠ list.length := by omega
    simp [different]

namespace Shares

variable {origins : List TokenOrigin} {one other third : Nat}

/-- A token shares its signal with itself. -/
theorem refl (token : Nat) : Shares origins token token := Relation.EqvGen.refl token

/-- Sharing goes both ways. -/
theorem symm (shares : Shares origins one other) : Shares origins other one :=
  Relation.EqvGen.symm _ _ shares

/-- Sharing goes on from token to token. -/
theorem trans (first : Shares origins one other) (second : Shares origins other third) :
    Shares origins one third := Relation.EqvGen.trans _ _ _ first second

/-- Tokens go on sharing a signal when more tokens are made. -/
theorem mono (shares : Shares origins one other) (later : TokenOrigin) : Shares (origins ++ [later]) one other :=
  Relation.EqvGen.mono (fun _ _ known => getElem?_snoc.mpr (Or.inl known)) _ _ shares

end Shares

/-- Tokens that share a signal have the same children. -/
theorem IsParent.of_shares {origins : List TokenOrigin} {parent other token : Nat}
    (isParent : IsParent origins parent token) (shares : Shares origins other parent) :
    IsParent origins other token := by
  obtain ⟨born, source, same, child, above⟩ := isParent
  exact ⟨born, source, same, child, above.trans shares.symm⟩

/-- What the numbers in tokens have to do with how the tokens were made. -/
structure Kinship (moves : List TokenMove) (history : TokenHistory) : Prop where
  /-- Each token has an origin. -/
  count : history.tokens.length = (originsOf moves).length
  /-- Only tokens that are there are cancelled. -/
  known : ∀ token, .cancel token ∈ moves → token < history.tokens.length
  /-- Every signal is there, and a parent's is older than that of its children. -/
  older : ∀ token ∈ history.tokens, token.own < history.signals.raised.length ∧
    ∀ signal, token.parent = some signal → signal < token.own
  /-- A clone is the same as what it was made from. -/
  cloned : ∀ copy source : Nat, (originsOf moves)[copy]? = some (.clone source) →
    history.tokens[copy]? = history.tokens[source]?
  /-- A child sees the signal of the token that it was made from. -/
  born : ∀ child source : Nat, (originsOf moves)[child]? = some (.child source) → ∃ token above,
    history.tokens[child]? = some token ∧ history.tokens[source]? = some above ∧ token.parent = some above.own
  /-- Tokens have the same signal only by cloning. -/
  shared : ∀ (one other : Nat) token token', history.tokens[one]? = some token → history.tokens[other]? = some token' →
    token.own = token'.own → Shares (originsOf moves) one other
  /-- A token sees a second signal only if it comes from a child by cloning. -/
  descended : ∀ (place : Nat) token signal, history.tokens[place]? = some token → token.parent = some signal →
    ∃ (child source : Nat) (above : CancelToken), Shares (originsOf moves) place child ∧
      (originsOf moves)[child]? = some (.child source) ∧ history.tokens[source]? = some above ∧ above.own = signal
  /-- Just those signals have been raised whose tokens were cancelled. -/
  raised : ∀ signal, history.signals.isRaised signal = true ↔
    ∃ (place : Nat) (token : CancelToken), .cancel place ∈ moves ∧ history.tokens[place]? = some token ∧
      token.own = signal

/-- What one more token has to do with the tokens that are there. -/
structure Joins (moves : List TokenMove) (history : TokenHistory) (origin : TokenOrigin) (token : CancelToken)
    (signals : Signals) : Prop where
  /-- No signal is raised. -/
  still : ∀ signal, signals.isRaised signal = history.signals.isRaised signal
  /-- No signal is lost. -/
  room : history.signals.raised.length ≤ signals.raised.length
  /-- The token's signals are there, and its parent's is the older one. -/
  older : token.own < signals.raised.length ∧ ∀ signal, token.parent = some signal → signal < token.own
  /-- A clone is the same as what it is made from. -/
  cloned : ∀ source, origin = .clone source → history.tokens[source]? = some token
  /-- A child sees the signal of the token that it is made from. -/
  born : ∀ source, origin = .child source → ∃ above, history.tokens[source]? = some above ∧
    token.parent = some above.own
  /-- A token that is there has the same signal only by cloning. -/
  shared : ∀ (other : Nat) token', history.tokens[other]? = some token' → token'.own = token.own →
    Shares (originsOf moves ++ [origin]) other history.tokens.length
  /-- The token sees a second signal only if it comes from a child by cloning. -/
  descended : ∀ signal, token.parent = some signal → ∃ (child source : Nat) (above : CancelToken),
    Shares (originsOf moves ++ [origin]) history.tokens.length child ∧
      (originsOf moves ++ [origin])[child]? = some (.child source) ∧
      history.tokens[source]? = some above ∧ above.own = signal

/-- A signal that is added has not been raised. -/
theorem Signals.isRaised_added (signals : Signals) (signal : Nat) :
    (Signals.mk (signals.raised ++ [false])).isRaised signal = signals.isRaised signal := by
  unfold isRaised
  -- Only the signal at the end could be another one than before.
  rcases Nat.lt_trichotomy signal signals.raised.length with inside | rfl | outside
  · rw [List.getElem?_append_left inside]
  · -- The new signal is down, and before there was none.
    simp
  · rw [List.getElem?_eq_none (by simp; omega), List.getElem?_eq_none (by omega)]

namespace Kinship

variable {moves : List TokenMove} {history next : TokenHistory}

/-- At first there are no tokens. -/
theorem initial : Kinship [] {} where
  count := rfl
  known token member := by cases member
  older token member := by cases member
  cloned copy source origin := by cases origin
  born child source origin := by cases origin
  shared one other token token' here := by cases here
  descended place token signal here := by cases here
  raised signal := by simp [Signals.isRaised]

/-- Every token that is there has signals that are there. -/
theorem below (kin : Kinship moves history) {place : Nat} {token : CancelToken}
    (here : history.tokens[place]? = some token) : token.own < history.signals.raised.length :=
  (kin.older token (List.mem_of_getElem? here)).1

/-- A token with a new signal shares it with no other token. -/
theorem shares_none (kin : Kinship moves history) {place : Nat} {token : CancelToken}
    (here : history.tokens[place]? = some token) : token.own ≠ history.signals.raised.length := by
  -- All signals that tokens have are older than the next one.
  have below := kin.below here
  omega

/-- A token that is made from nothing has no relatives. -/
theorem joins_fresh (kin : Kinship moves history) :
    Joins moves history .fresh history.signals.newToken.1 history.signals.newToken.2 where
  still := history.signals.isRaised_added
  room := by simp [Signals.newToken]
  older := ⟨by simp [Signals.newToken], by simp [Signals.newToken]⟩
  cloned source same := by cases same
  born source same := by cases same
  shared other token' here same := absurd same (kin.shares_none here)
  descended signal parent := by cases parent

/-- A child has a signal of its own, and that of its parent. -/
theorem joins_child (kin : Kinship moves history) {source : Nat} {above : CancelToken}
    (here : history.tokens[source]? = some above) :
    Joins moves history (.child source) (history.signals.childToken above).1 (history.signals.childToken above).2 where
  still := history.signals.isRaised_added
  room := by simp [Signals.childToken]
  older := by
    refine ⟨by simp [Signals.childToken], ?_⟩
    intro signal parent
    -- The only signal of a parent that the child has is that of its maker.
    cases parent
    exact kin.below here
  cloned other same := by cases same
  born other same := by
    cases same
    exact ⟨above, here, rfl⟩
  shared other token' there same := absurd same (kin.shares_none there)
  descended signal parent := by
    cases parent
    -- The new token itself is the child that is asked for.
    refine ⟨history.tokens.length, source, above, .refl _, ?_, here, rfl⟩
    rw [getElem?_snoc]
    exact Or.inr ⟨kin.count, rfl⟩

/-- A clone has the relatives of the token that it is made from. -/
theorem joins_clone (kin : Kinship moves history) {source : Nat} {token : CancelToken}
    (here : history.tokens[source]? = some token) : Joins moves history (.clone source) token history.signals := by
  -- The entry that is added last says that the clone is one of its source.
  have copied : Shares (originsOf moves ++ [.clone source]) history.tokens.length source := by
    apply Relation.EqvGen.rel
    exact getElem?_snoc.mpr (Or.inr ⟨kin.count, rfl⟩)
  refine ⟨fun _ => rfl, Nat.le_refl _, kin.older token (List.mem_of_getElem? here), ?_, ?_, ?_, ?_⟩
  · intro other same
    cases same
    exact here
  · intro other same
    cases same
  · -- Whoever shared a signal with the source shares it with the clone.
    intro other token' there same
    have among := kin.shared other source token' token there here same
    exact (among.mono _).trans copied.symm
  · intro signal parent
    -- The clone comes from the child that its source comes from.
    obtain ⟨child, maker, above, shares, origin, there, same⟩ := kin.descended source token signal here parent
    exact ⟨child, maker, above, copied.trans (shares.mono _), getElem?_snoc.mpr (Or.inl origin), there, same⟩

/-- One more token is related to the others in no other way than by how it is made. -/
theorem make (kin : Kinship moves history) {origin : TokenOrigin} {token : CancelToken} {signals : Signals}
    (joins : Joins moves history origin token signals) :
    Kinship (moves ++ [.make origin]) ⟨signals, history.tokens ++ [token]⟩ := by
  have origins : originsOf (moves ++ [.make origin]) = originsOf moves ++ [origin] := by
    simp [originsOf]
  -- The tokens that were there stay at their places.
  have stays : ∀ {place other}, history.tokens[place]? = some other →
      (history.tokens ++ [token])[place]? = some other := fun here => getElem?_snoc.mpr (Or.inl here)
  have cancels : ∀ place, .cancel place ∈ moves ++ [.make origin] ↔ .cancel place ∈ moves := by simp
  constructor
  · rw [origins]
    -- One token and one origin are added.
    simp [kin.count]
  · -- No token that was cancelled has moved.
    intro place member
    have inside := kin.known place ((cancels place).mp member)
    simp only [List.length_append, List.length_singleton]
    omega
  · -- The new token has signals that are there.
    intro other member
    rcases List.mem_append.mp member with old | new
    · obtain ⟨inside, above⟩ := kin.older other old
      exact ⟨Nat.lt_of_lt_of_le inside joins.room, above⟩
    · rw [List.mem_singleton.mp new]
      exact joins.older
  · intro copy source found
    -- A clone is an old one, or it is made now from a token that is there.
    rw [origins, getElem?_snoc] at found
    rcases found with old | ⟨rfl, rfl⟩
    · -- The copy has a token, and so the source has one.
      have inside : copy < history.tokens.length := by
        rw [kin.count]
        exact (List.getElem?_eq_some_iff.mp old).1
      have here := List.getElem?_eq_getElem inside
      rw [stays here, stays ((kin.cloned copy source old).symm.trans here)]
    · rw [stays (joins.cloned source rfl), ← kin.count]
      exact getElem?_snoc.mpr (Or.inr ⟨rfl, rfl⟩)
  · -- A child that is made now sees its source; others see theirs as before.
    intro child source found
    rw [origins, getElem?_snoc] at found
    rcases found with old | ⟨rfl, rfl⟩
    · obtain ⟨one, above, here, there, parent⟩ := kin.born child source old
      exact ⟨one, above, stays here, stays there, parent⟩
    · obtain ⟨above, there, parent⟩ := joins.born source rfl
      exact ⟨token, above, getElem?_snoc.mpr (Or.inr ⟨kin.count.symm, rfl⟩), stays there, parent⟩
  · intro one other token₁ token₂ here there same
    rw [origins]
    -- Either token may be the new one.
    rcases getElem?_snoc.mp here with old | ⟨rfl, rfl⟩
    · rcases getElem?_snoc.mp there with old' | ⟨rfl, rfl⟩
      · exact (kin.shared one other token₁ token₂ old old' same).mono origin
      · exact joins.shared one token₁ old same
    · rcases getElem?_snoc.mp there with old' | ⟨rfl, rfl⟩
      · exact (joins.shared other token₂ old' same.symm).symm
      · exact .refl _
  · -- Whoever sees a parent's signal comes of a child of that parent.
    intro place other signal here parent
    rw [origins]
    rcases getElem?_snoc.mp here with old | ⟨rfl, rfl⟩
    · obtain ⟨child, source, above, shares, origin', there, same⟩ := kin.descended place other signal old parent
      exact ⟨child, source, above, shares.mono origin, getElem?_snoc.mpr (Or.inl origin'), stays there, same⟩
    · obtain ⟨child, source, above, shares, origin', there, same⟩ := joins.descended signal parent
      exact ⟨child, source, above, shares, origin', stays there, same⟩
  · -- Making a token cancels nothing.
    intro signal
    rw [joins.still, kin.raised]
    constructor
    · intro found
      obtain ⟨place, other, cancelled, here, same⟩ := found
      exact ⟨place, other, (cancels place).mpr cancelled, stays here, same⟩
    · intro found
      obtain ⟨place, other, cancelled, here, same⟩ := found
      have inside := kin.known place ((cancels place).mp cancelled)
      rw [List.getElem?_append_left inside] at here
      exact ⟨place, other, (cancels place).mp cancelled, here, same⟩

/-- Cancelling a token raises its signal and does nothing else. -/
theorem cancel (kin : Kinship moves history) {place : Nat} {token : CancelToken}
    (here : history.tokens[place]? = some token) :
    Kinship (moves ++ [.cancel place]) { history with signals := history.signals.cancel token } := by
  have origins : originsOf (moves ++ [.cancel place]) = originsOf moves := by
    simp [originsOf]
  constructor
  · rw [origins]
    exact kin.count
  · -- The token that is cancelled now is there, as those that were cancelled before are.
    intro other member
    rcases List.mem_append.mp member with old | new
    · exact kin.known other old
    · cases List.mem_singleton.mp new
      exact (List.getElem?_eq_some_iff.mp here).1
  · -- Raising a signal keeps the number of signals.
    simpa [Signals.cancel, Signals.raise] using kin.older
  · rw [origins]
    exact kin.cloned
  · rw [origins]
    exact kin.born
  · rw [origins]
    exact kin.shared
  · rw [origins]
    exact kin.descended
  · intro signal
    -- Only the tokens with this signal are concerned.
    by_cases same : signal = token.own
    · subst same
      have now : (history.signals.cancel token).isRaised token.own = true :=
        Signals.isRaised_raise_self (kin.below here)
      exact ⟨fun _ => ⟨place, token, by simp, here, rfl⟩, fun _ => now⟩
    · have still : (history.signals.cancel token).isRaised signal = history.signals.isRaised signal :=
        Signals.isRaised_raise_ne (Ne.symm same)
      show (history.signals.cancel token).isRaised signal = true ↔ _
      rw [still, kin.raised]
      constructor
      · intro found
        obtain ⟨other, token', cancelled, there, own⟩ := found
        exact ⟨other, token', List.mem_append_left _ cancelled, there, own⟩
      · intro found
        obtain ⟨other, token', cancelled, there, own⟩ := found
        rcases List.mem_append.mp cancelled with old | new
        · exact ⟨other, token', old, there, own⟩
        · -- The token that is cancelled now has another signal.
          cases List.mem_singleton.mp new
          rw [here] at there
          cases there
          exact absurd own.symm same

/-- Every move keeps to what the numbers in tokens mean. -/
theorem step (kin : Kinship moves history) {move : TokenMove} (moved : history.move? move = some next) :
    Kinship (moves ++ [move]) next := by
  cases move with
  | make origin =>
    obtain ⟨⟨token, signals⟩, made, rfl⟩ := Option.map_eq_some_iff.mp moved
    apply kin.make
    cases origin with
    | fresh =>
      -- The new token is related to those that its origin says.
      cases made
      exact kin.joins_fresh
    | child source =>
      -- A child and a clone are made of a token that is there.
      obtain ⟨above, here, same⟩ := Option.map_eq_some_iff.mp made
      cases same
      exact kin.joins_child here
    | clone source =>
      obtain ⟨token, here, same⟩ := Option.map_eq_some_iff.mp made
      cases same
      exact kin.joins_clone here
  | cancel place =>
    obtain ⟨token, here, rfl⟩ := Option.map_eq_some_iff.mp moved
    exact kin.cancel here

/-- Any number of moves keep to it. -/
theorem play {before : List TokenMove} {first last : TokenHistory} (kin : Kinship before first)
    (played : first.play? moves = some last) : Kinship (before ++ moves) last := by
  induction moves generalizing before first with
  | nil =>
    -- With every move the list of moves before it grows by one.
    cases played
    rwa [List.append_nil]
  | cons move rest ih =>
    obtain ⟨next, moved, played⟩ := Option.bind_eq_some_iff.mp played
    have now := ih (kin.step moved) played
    rwa [List.append_assoc, List.singleton_append] at now

variable {one other : Nat} {token token' : CancelToken}

/-- Tokens that share a signal by cloning are the same. -/
theorem same_of_shares (kin : Kinship moves history) (shares : Shares (originsOf moves) one other) :
    history.tokens[one]? = history.tokens[other]? := by
  induction shares with
  -- A clone is the token that it was made of, and the rest follows.
  | rel copy source origin => exact kin.cloned copy source origin
  | refl token => rfl
  | symm one other _ ih => exact ih.symm
  | trans one other third _ _ ih ih' => exact ih.trans ih'

/-- Tokens come from the same one by cloning just if they have the same signal. -/
theorem shares_iff (kin : Kinship moves history) (here : history.tokens[one]? = some token)
    (there : history.tokens[other]? = some token') :
    Shares (originsOf moves) one other ↔ token.own = token'.own := by
  constructor
  · intro shares
    have same := kin.same_of_shares shares
    -- Clones are the same token, so they have the same signal.
    rw [here, there] at same
    rw [Option.some.inj same]
  · exact kin.shared one other token token' here there

/-- A token is a parent of another just if the other one sees its signal as that of its parent. -/
theorem isParent_iff (kin : Kinship moves history) (here : history.tokens[one]? = some token)
    (there : history.tokens[other]? = some token') :
    IsParent (originsOf moves) one other ↔ token'.parent = some token.own := by
  constructor
  · intro isParent
    obtain ⟨child, source, same, origin, above⟩ := isParent
    obtain ⟨born, maker, atChild, atSource, parent⟩ := kin.born child source origin
    -- The child is the token itself, and its maker is the parent.
    have first : some token' = some born := by rw [← there, kin.same_of_shares same, atChild]
    have second : some maker = some token := by rw [← atSource, kin.same_of_shares above, here]
    rw [Option.some.inj first, parent, Option.some.inj second]
  · intro parent
    -- A second signal is seen by children only, and it is that of the one they were made from.
    obtain ⟨child, source, above, shares, origin, atSource, same⟩ := kin.descended other token' token.own there parent
    exact ⟨child, source, shares, origin, kin.shared source one above token atSource here same⟩

/-- A parent is there if its child is, and it is the older one. -/
theorem parent_older (kin : Kinship moves history) (isParent : IsParent (originsOf moves) one other) :
    ∃ token token', history.tokens[one]? = some token ∧ history.tokens[other]? = some token' ∧
      token.own < token'.own := by
  obtain ⟨child, source, same, origin, above⟩ := id isParent
  obtain ⟨born, maker, atChild, atSource, _⟩ := kin.born child source origin
  -- The child and its maker are given under other names here.
  have here : history.tokens[one]? = some maker := by rw [← kin.same_of_shares above, atSource]
  have there : history.tokens[other]? = some born := by rw [kin.same_of_shares same, atChild]
  have parent := (kin.isParent_iff here there).mp isParent
  exact ⟨maker, born, here, there, (kin.older born (List.mem_of_getElem? there)).2 maker.own parent⟩

/-- An ancestor is older. -/
theorem ancestor_older (kin : Kinship moves history) (isAncestor : IsAncestor (originsOf moves) one other) :
    ∃ token token', history.tokens[one]? = some token ∧ history.tokens[other]? = some token' ∧
      token.own < token'.own := by
  induction isAncestor with
  | single isParent => exact kin.parent_older isParent
  | tail _ isParent ih =>
    -- The ages add up along the line.
    obtain ⟨token, middle, here, there, first⟩ := ih
    obtain ⟨middle', token', there', last, second⟩ := kin.parent_older isParent
    rw [there] at there'
    cases there'
    exact ⟨token, token', here, last, Nat.lt_trans first second⟩

/-- A token is cancelled just if one with its signal or with that of its parent has been cancelled. -/
theorem isCancelled_iff_near (kin : Kinship moves history) (there : history.tokens[other]? = some token') :
    history.signals.isCancelled token' = true ↔ CancelledNear moves other := by
  have above : token'.parent.any history.signals.isRaised = true ↔
      ∃ signal, token'.parent = some signal ∧ history.signals.isRaised signal = true := Option.any_eq_true _ _
  rw [Signals.isCancelled, Bool.or_eq_true, above]
  constructor
  · intro cancelled
    -- Its own signal was raised, or that of its parent.
    rcases cancelled with own | ⟨signal, parent, raised⟩
    · obtain ⟨place, token, cancelled, here, same⟩ := (kin.raised token'.own).mp own
      exact ⟨place, cancelled, Or.inl ((kin.shares_iff here there).mpr same)⟩
    · obtain ⟨place, token, cancelled, here, rfl⟩ := (kin.raised signal).mp raised
      exact ⟨place, cancelled, Or.inr ((kin.isParent_iff here there).mpr parent)⟩
  · intro near
    obtain ⟨place, cancelled, related⟩ := near
    have here := List.getElem?_eq_getElem (kin.known place cancelled)
    -- Whoever was cancelled had one of these signals.
    rcases related with shares | isParent
    · have same := (kin.shares_iff here there).mp shares
      exact Or.inl ((kin.raised _).mpr ⟨place, _, cancelled, here, same⟩)
    · have parent := (kin.isParent_iff here there).mp isParent
      exact Or.inr ⟨_, parent, (kin.raised _).mpr ⟨place, _, cancelled, here, rfl⟩⟩

/-- Cancelling a token changes nothing for a token that shares no signal with it and is no child of it. -/
theorem spares (kin : Kinship moves history) (here : history.tokens[one]? = some token)
    (there : history.tokens[other]? = some token') (moved : history.move? (.cancel one) = some next)
    (apart : ¬Shares (originsOf moves) one other) (childless : ¬IsParent (originsOf moves) one other) :
    next.signals.isCancelled token' = history.signals.isCancelled token' := by
  -- A signal is looked at only by those who share it and by the children of these.
  obtain ⟨token'', here', rfl⟩ := Option.map_eq_some_iff.mp moved
  rw [here] at here'
  cases here'
  rw [kin.shares_iff here there] at apart
  rw [kin.isParent_iff here there] at childless
  exact Signals.isCancelled_cancel_ne apart childless

/-- An ancestor of a token has neither its signal nor is it a child of the token. -/
theorem ancestor_apart (kin : Kinship moves history) (isAncestor : IsAncestor (originsOf moves) other one) :
    ¬Shares (originsOf moves) one other ∧ ¬IsParent (originsOf moves) one other := by
  -- Age tells them apart: an ancestor is older than the token.
  obtain ⟨above, below, there, here, older⟩ := kin.ancestor_older isAncestor
  constructor
  · -- Tokens with the same signal are equally old.
    rw [kin.shares_iff here there]
    omega
  · -- A child is younger than its parent.
    intro isParent
    obtain ⟨below', above', here', there', older'⟩ := kin.parent_older isParent
    rw [here] at here'
    rw [there] at there'
    cases here'
    cases there'
    omega

/-- A token is no child of one that has the same parent. -/
theorem sibling_apart (kin : Kinship moves history) {parent : Nat} (isParent : IsParent (originsOf moves) parent one)
    (isParent' : IsParent (originsOf moves) parent other) : ¬IsParent (originsOf moves) one other := by
  intro between
  obtain ⟨above, token, atParent, here, older⟩ := kin.parent_older isParent
  obtain ⟨_, token', _, there, _⟩ := kin.parent_older isParent'
  -- A token sees the signal of one parent only, and no token is its own parent.
  have first := (kin.isParent_iff atParent there).mp isParent'
  have second := (kin.isParent_iff here there).mp between
  rw [first, Option.some.injEq] at second
  omega

end Kinship

/-- The first token is an ancestor of the other, or it has a parent in common with it and a signal of its own. -/
def Uninvolved (moves : List TokenMove) (token other : Nat) : Prop :=
  IsAncestor (originsOf moves) token other ∨
    ∃ parent, IsParent (originsOf moves) parent token ∧ IsParent (originsOf moves) parent other ∧
      ¬Shares (originsOf moves) other token

namespace TokenHistory

/-- A token is cancelled just if one with its signal or with that of its parent has been cancelled. It is cancelled
with all of its ancestors just if none further up has been cancelled without one that is near, and then it is
cancelled whenever a parent of it is. Cancelling a token changes nothing for its ancestors and siblings. -/
theorem isCancelled_iff_lineage {moves : List TokenMove} {last : TokenHistory}
    (played : ({} : TokenHistory).play? moves = some last) {place : Nat} {token : CancelToken}
    (here : last.tokens[place]? = some token) :
    (last.signals.isCancelled token = true ↔ CancelledNear moves place) ∧
    ((last.signals.isCancelled token = true ↔ CancelledInLine moves place) ↔
      (CancelledInLine moves place → CancelledNear moves place)) ∧
    ((CancelledInLine moves place → CancelledNear moves place) →
      ∀ parent above, last.tokens[parent]? = some above → IsParent (originsOf moves) parent place →
        last.signals.isCancelled above = true → last.signals.isCancelled token = true) ∧
    ∀ other next, last.move? (.cancel other) = some next → Uninvolved moves place other →
      next.signals.isCancelled token = last.signals.isCancelled token := by
  have kin : Kinship moves last := Kinship.initial.play played
  have near : last.signals.isCancelled token = true ↔ CancelledNear moves place := kin.isCancelled_iff_near here
  -- The parent is the first in the line of ancestors.
  have inLine : CancelledNear moves place → CancelledInLine moves place := by
    intro cancelled
    obtain ⟨other, member, related⟩ := cancelled
    exact ⟨other, member, related.imp_right Relation.TransGen.single⟩
  refine ⟨near, ?_, ?_, ?_⟩
  · -- Whoever is near is in the line, so the two agree if the converse holds.
    rw [near]
    exact ⟨fun same => same.mpr, fun closer => ⟨inLine, closer⟩⟩
  · -- If what is further up never matters, a token sees all that its parent sees.
    intro closer parent above there isParent cancelled
    obtain ⟨other, member, related⟩ := (kin.isCancelled_iff_near there).mp cancelled
    refine near.mpr (closer ⟨other, member, Or.inr ?_⟩)
    -- What is near to the parent is the parent itself by another name, or one step above it.
    rcases related with shares | isGrandparent
    · exact Relation.TransGen.single (isParent.of_shares shares)
    · exact (Relation.TransGen.single isGrandparent).tail isParent
  · -- Ancestors and siblings look at other signals than the one that is raised.
    intro other next moved uninvolved
    obtain ⟨cancelled, there, _⟩ := Option.map_eq_some_iff.mp moved
    rcases uninvolved with isAncestor | ⟨parent, isParent, isParent', apart⟩
    · obtain ⟨apart, childless⟩ := kin.ancestor_apart isAncestor
      exact kin.spares there here moved apart childless
    · exact kin.spares there here moved apart (kin.sibling_apart isParent' isParent)

/-- A token, its child and its grandchild, of which the first one is cancelled. -/
def threeGenerations : List TokenMove := [.make .fresh, .make (.child 0), .make (.child 1), .cancel 0]

/-- The child of a token that is cancelled is cancelled with it. -/
theorem child_sees_parent : ∃ last token, ({} : TokenHistory).play? threeGenerations = some last ∧
    last.tokens[1]? = some token ∧ last.signals.isCancelled token = true := by
  have played : ({} : TokenHistory).play? threeGenerations =
      some ⟨⟨[true, false, false]⟩, [⟨0, none⟩, ⟨1, some 0⟩, ⟨2, some 1⟩]⟩ := by decide
  have isParent : IsParent (originsOf threeGenerations) 0 1 := ⟨1, 0, .refl _, rfl, .refl _⟩
  have near : CancelledNear threeGenerations 1 := ⟨0, by decide, Or.inr isParent⟩
  exact ⟨_, _, played, rfl, (isCancelled_iff_lineage played rfl).1.mpr near⟩

/-- The grandchild of a token that is cancelled is not, although its parent is. -/
theorem grandchild_misses_cancel : ∃ last child grandchild,
    ({} : TokenHistory).play? threeGenerations = some last ∧ last.tokens[1]? = some child ∧
      last.tokens[2]? = some grandchild ∧ IsParent (originsOf threeGenerations) 1 2 ∧
      CancelledInLine threeGenerations 2 ∧ last.signals.isCancelled child = true ∧
      last.signals.isCancelled grandchild = false := by
  have played : ({} : TokenHistory).play? threeGenerations =
      some ⟨⟨[true, false, false]⟩, [⟨0, none⟩, ⟨1, some 0⟩, ⟨2, some 1⟩]⟩ := by decide
  have first : IsParent (originsOf threeGenerations) 0 1 := ⟨1, 0, .refl _, rfl, .refl _⟩
  have second : IsParent (originsOf threeGenerations) 1 2 := ⟨2, 1, .refl _, rfl, .refl _⟩
  -- The line goes on over two generations, and only one is looked at.
  have inLine : CancelledInLine threeGenerations 2 :=
    ⟨0, by decide, Or.inr ((Relation.TransGen.single first).tail second)⟩
  exact ⟨_, _, _, played, rfl, rfl, second, inLine, by decide, by decide⟩

end TokenHistory

end ModuleScope
