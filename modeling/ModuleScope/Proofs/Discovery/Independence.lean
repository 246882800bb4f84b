import ModuleScope.Proofs.Discovery.Fleet
import ModuleScope.Proofs.Discovery.Lifecycle
import ModuleScope.Proofs.Discovery.Order
import ModuleScope.Proofs.Discovery.Views

/-! Runs side by side make no difference to each other: each does what it could do alone. -/

namespace ModuleScope

namespace Fleet

variable {sources : ModuleSources} {fleet next last : Fleet} {move : FleetMove} {moves : List FleetMove}

/-- The tokens of the runs: the caller's and the one that stops the workers. -/
def pairs (fleet : Fleet) : List (CancelToken × CancelToken) :=
  fleet.members.map fun member => (member.run.token, member.run.stop)

/-- A run that keeps its tokens leaves the tokens of all runs as they were. -/
theorem pairs_set {members : List FleetMember} {place : Nat} {member other : FleetMember}
    (found : members[place]? = some member)
    (same : other.run.token = member.run.token ∧ other.run.stop = member.run.stop) :
    ((members.set place other).map fun member => (member.run.token, member.run.stop)) =
      members.map fun member => (member.run.token, member.run.stop) := by
  obtain ⟨front, back, members, changed⟩ := Run.split_of_getElem? found
  rw [changed, members]
  simp [same]

/-- Stop tokens have signals of their own, which nobody else sees. -/
structure Apart (count : Nat) (tokens : List CancelToken) (pairs : List (CancelToken × CancelToken)) : Prop where
  /-- The signals of the tokens are there. -/
  known : ∀ token ∈ tokens, token.own < count ∧ ∀ parent, token.parent = some parent → parent < count
  /-- A run has the token of a caller, and its stop token sees that one's signal. -/
  given : ∀ pair ∈ pairs, pair.1 ∈ tokens ∧ pair.2.parent = some pair.1.own ∧ pair.2.own < count
  /-- No token of a caller sees the signal of a stop token. -/
  secret : ∀ pair ∈ pairs, ∀ token ∈ tokens, pair.2.own ≠ token.own ∧ token.parent ≠ some pair.2.own
  /-- No two stop tokens have the same signal. -/
  separate : ∀ (place place' : Nat) one other, place ≠ place' → pairs[place]? = some one → pairs[place']? = some other →
    one.2.own ≠ other.2.own

namespace Apart

variable {count : Nat} {tokens : List CancelToken} {pairs : List (CancelToken × CancelToken)}

/-- A token with a new signal may be given to a caller, which sees another caller's besides at most. -/
theorem make (apart : Apart count tokens pairs) (parent : Option CancelToken)
    (known : ∀ token ∈ parent, token ∈ tokens) :
    Apart (count + 1) (tokens ++ [⟨count, parent.map (·.own)⟩]) pairs where
  known token member := by
    rcases List.mem_append.mp member with old | new
    · -- Those that are known keep their signals.
      have there := apart.known token old
      exact ⟨by omega, fun above same => Nat.lt_succ_of_lt (there.2 above same)⟩
    · rw [List.mem_singleton.mp new]
      refine ⟨Nat.lt_succ_self count, fun above same => ?_⟩
      -- What the new token sees besides is the signal of one that is known.
      obtain ⟨source, given, rfl⟩ := Option.map_eq_some_iff.mp same
      exact Nat.lt_succ_of_lt (apart.known source (known source given)).1
  given pair member := by
    have there := apart.given pair member
    exact ⟨List.mem_append_left _ there.1, there.2.1, Nat.lt_succ_of_lt there.2.2⟩
  secret pair member token listed := by
    rcases List.mem_append.mp listed with old | new
    · exact apart.secret pair member token old
    · -- The new signal is later than all others.
      have there := (apart.given pair member).2.2
      rw [List.mem_singleton.mp new]
      refine ⟨by simpa using Nat.ne_of_lt there, fun same => ?_⟩
      obtain ⟨source, given, own⟩ := Option.map_eq_some_iff.mp same
      exact (apart.secret pair member source (known source given)).1 own.symm
  separate := apart.separate

/-- A stop token with a new signal may be given to a run. -/
theorem launch (apart : Apart count tokens pairs) {token : CancelToken} (known : token ∈ tokens) :
    Apart (count + 1) tokens (pairs ++ [(token, ⟨count, some token.own⟩)]) where
  known other member := by
    have there := apart.known other member
    exact ⟨by omega, fun above same => Nat.lt_succ_of_lt (there.2 above same)⟩
  given pair member := by
    rcases List.mem_append.mp member with old | new
    · have there := apart.given pair old
      exact ⟨there.1, there.2.1, Nat.lt_succ_of_lt there.2.2⟩
    · rw [List.mem_singleton.mp new]
      exact ⟨known, rfl, Nat.lt_succ_self count⟩
  secret pair member other listed := by
    rcases List.mem_append.mp member with old | new
    · -- The stop tokens of others are as secret as before.
      exact apart.secret pair old other listed
    · rw [List.mem_singleton.mp new]
      have there := apart.known other listed
      refine ⟨by simpa using (Nat.ne_of_gt there.1), fun same => ?_⟩
      exact Nat.lt_irrefl count (there.2 count same)
  separate place place' one other different here there := by
    rw [getElem?_snoc] at here there
    rcases here with old | ⟨rfl, rfl⟩ <;> rcases there with old' | ⟨rfl, rfl⟩
    · exact apart.separate place place' one other different old old'
    · -- An older stop token has an older signal.
      exact Nat.ne_of_lt (apart.given one (List.mem_of_getElem? old)).2.2
    · exact Nat.ne_of_gt (apart.given other (List.mem_of_getElem? old')).2.2
    · exact absurd rfl different

end Apart

/-- No stop token of a run in the fleet is seen by anybody else. -/
def KeepsApart (fleet : Fleet) : Prop := Apart fleet.signals.raised.length fleet.tokens fleet.pairs

namespace KeepsApart

/-- A fleet without runs keeps them apart. -/
theorem start (limit : Nat) : KeepsApart { limit } := by
  constructor <;> simp [pairs]

/-- No move gives a stop token away. -/
theorem step (apart : fleet.KeepsApart) (moved : fleet.Moved sources move next) : next.KeepsApart := by
  unfold KeepsApart at *
  -- Whoever is new takes a new signal, and whatever a run does it neither adds a signal nor changes its tokens.
  cases move with
  | makeToken =>
    cases moved
    simpa [pairs, Signals.newToken] using apart.make none (by simp)
  | makeChild parent =>
    cases moved with
    | madeChild _ known => simpa [pairs, Signals.childToken] using apart.make (some parent) (by simpa using known)
  | launch token seed =>
    cases moved with
    | launched _ _ known => simpa [pairs, Run.new, Signals.childToken] using apart.launch known
  | cancel token =>
    cases moved
    simpa [pairs, Signals.cancel, Signals.raise] using apart
  | act place _ | call place | drop place =>
    -- The members may change, but not their tokens.
    obtain ⟨member, member', touched⟩ := moved.touched rfl
    have length : next.signals.raised.length = fleet.signals.raised.length := by
      rcases touched.signals with still | stopped
      · rw [still]
      · simp [stopped, Signals.cancel, Signals.raise]
    have same : next.pairs = fleet.pairs := by
      unfold pairs
      rw [touched.members, pairs_set touched.found touched.same]
    rwa [length, touched.tokens, same]

/-- No moves give one away. -/
theorem play (apart : fleet.KeepsApart) (played : fleet.play? sources moves = some last) : last.KeepsApart :=
  play?_keeps (fun _ _ _ moved apart => apart.step moved) played apart

variable {place other : Nat} {member member' : FleetMember}

/-- The tokens of a run stand among those of all runs. -/
theorem pair (found : fleet.members[place]? = some member) :
    fleet.pairs[place]? = some (member.run.token, member.run.stop) := by
  simp [pairs, found]

/-- A run has the token of a caller, and its stop token sees that one's signal. -/
theorem given (apart : fleet.KeepsApart) (found : fleet.members[place]? = some member) :
    member.run.token ∈ fleet.tokens ∧ member.run.stop.parent = some member.run.token.own ∧
      member.run.stop.own < fleet.signals.raised.length :=
  Apart.given apart _ (List.mem_of_getElem? (pair found))

/-- No token of a caller sees the signal of a stop token. -/
theorem secret (apart : fleet.KeepsApart) (found : fleet.members[place]? = some member) {token : CancelToken}
    (known : token ∈ fleet.tokens) : member.run.stop.own ≠ token.own ∧ token.parent ≠ some member.run.stop.own :=
  Apart.secret apart _ (List.mem_of_getElem? (pair found)) token known

/-- No two stop tokens have the same signal. -/
theorem separate (apart : fleet.KeepsApart) (different : place ≠ other)
    (found : fleet.members[place]? = some member) (there : fleet.members[other]? = some member') :
    member.run.stop.own ≠ member'.run.stop.own :=
  Apart.separate apart place other _ _ different (pair found) (pair there)

/-- All that a run sees of the signals is there. -/
theorem sees (apart : fleet.KeepsApart) (found : fleet.members[place]? = some member) :
    member.run.SeesAlike fleet.signals fleet.signals := by
  obtain ⟨known, child, inside⟩ := apart.given found
  obtain ⟨own, above⟩ := apart.known _ known
  exact ⟨.refl own, fun parent same => .refl (above parent same), .refl inside, child⟩

end KeepsApart

/-- The tokens of callers and all runs but one are what they were, and so is what the tokens of those runs see. -/
structure Spares (fleet : Fleet) (place : Nat) (next : Fleet) : Prop where
  /-- The tokens of callers are cancelled if they were. -/
  tokens : ∀ token ∈ fleet.tokens, next.signals.isCancelled token = fleet.signals.isCancelled token
  /-- So are the tokens of the other runs. -/
  others : ∀ (other : Nat) member, other ≠ place → fleet.members[other]? = some member →
    next.signals.isCancelled member.run.token = fleet.signals.isCancelled member.run.token ∧
      next.signals.isCancelled member.run.stop = fleet.signals.isCancelled member.run.stop
  /-- The other runs are what they were. -/
  members : ∀ other, other ≠ place → next.members[other]? = fleet.members[other]?

/-- A run and its consumer make no difference to callers and to other runs. -/
theorem Moved.spares (moved : fleet.Moved sources move next) (apart : fleet.KeepsApart) {place : Nat}
    (own : move.IsBy place) : fleet.Spares place next := by
  obtain ⟨member, member', touched⟩ := moved.touched own
  -- At most the signal of the stop token has been raised, and only that token sees it.
  have foreign : ∀ token : CancelToken, member.run.stop.own ≠ token.own → token.parent ≠ some member.run.stop.own →
      next.signals.isCancelled token = fleet.signals.isCancelled token := by
    intro token own above
    rcases touched.signals with still | stopped
    · rw [still]
    · rw [stopped, Signals.isCancelled_cancel_ne own above]
  have tokens : ∀ token ∈ fleet.tokens, next.signals.isCancelled token = fleet.signals.isCancelled token := by
    intro token known
    obtain ⟨own, above⟩ := apart.secret touched.found known
    exact foreign token own above
  refine ⟨tokens, fun other member'' different there => ?_, fun other different => ?_⟩
  · obtain ⟨known, child, _⟩ := apart.given there
    refine ⟨tokens _ known, foreign _ (apart.separate different.symm touched.found there) ?_⟩
    rw [child]
    exact fun same => (apart.secret touched.found known).1 (Option.some.inj same).symm
  · -- The other members are not touched.
    rw [touched.members, List.getElem?_set_ne different.symm]

/-- A run in the fleet has got to the same point as it has alone. -/
structure Mirrors (fleet : Fleet) (place : Nat) (solo : History) : Prop where
  /-- The run is the same, and its calls have been answered alike. -/
  member : fleet.members[place]? = some { run := solo.run, answers := solo.answers }
  /-- It sees the same. -/
  alike : solo.run.SeesAlike fleet.signals solo.signals

namespace Mirrors

variable {place : Nat} {solo : History}

/-- A run that has just been started is the same as alone. -/
theorem launched {token : CancelToken} {seed : Path} (apart : fleet.KeepsApart)
    (moved : fleet.Moved sources (.launch token seed) next) :
    next.Mirrors fleet.members.length (History.start fleet.signals token seed fleet.limit) := by
  have now := apart.step moved
  cases moved with
  | launched _ _ known =>
    exact ⟨getElem?_snoc.mpr (Or.inr ⟨rfl, rfl⟩), now.sees (getElem?_snoc.mpr (Or.inr ⟨rfl, rfl⟩))⟩

/-- The others make no difference to a run. -/
theorem step_other (mirrors : fleet.Mirrors place solo) (apart : fleet.KeepsApart)
    (moved : fleet.Moved sources move next) (own : ¬move.IsBy place) :
    ∃ solo', solo.play? sources (move.alone place).toList = some solo' ∧ next.Mirrors place solo' := by
  have found := moved.member mirrors.member own
  cases move with
  | makeToken | makeChild _ | launch _ _ =>
    -- New tokens and new runs have signals that the run does not see.
    cases moved
    exact ⟨solo, rfl, found, mirrors.alike.imp fun _ agree => agree.add_left⟩
  | cancel token =>
    -- The run alone sees the same cancellation.
    cases moved with
    | cancelled _ known =>
      have alone := @History.move?_cancel sources solo token (apart.secret mirrors.member known).1.symm
      exact ⟨_, History.play?_single alone, found, mirrors.alike.cancel token⟩
  | act other _ | call other | drop other =>
    obtain ⟨before, after, touched⟩ := moved.touched rfl
    rw [FleetMove.alone_other own (by simp)]
    refine ⟨solo, rfl, found, ?_⟩
    -- Only another stop token may have been cancelled, and the run does not see that one.
    rcases touched.signals with still | stopped
    · rw [still]
      exact mirrors.alike
    · obtain ⟨token, above⟩ := apart.secret touched.found (apart.given mirrors.member).1
      rw [stopped]
      exact mirrors.alike.cancel_left token above (apart.separate own touched.found mirrors.member)

/-- A run does the same in the fleet as alone, until its consumer goes away. -/
theorem step_own (mirrors : fleet.Mirrors place solo) (moved : fleet.Moved sources move next)
    (own : move.IsBy place) :
    next.Left place ∨
      ∃ solo', solo.play? sources (move.alone place).toList = some solo' ∧ next.Mirrors place solo' := by
  have inside := (List.getElem?_eq_some_iff.mp mirrors.member).1
  -- The run that moves is the one at this place.
  cases moved with
  | made | madeChild _ _ | launched _ _ _ | cancelled _ _ => cases own
  | acted found stepped =>
    cases own
    cases mirrors.member.symm.trans found
    right
    have same := (step_spares stepped).1
    -- If the stop token is cancelled in the fleet, it is cancelled alone too.
    simp only [FleetMove.alone_act, Option.toList_some]
    rcases Run.step_alike mirrors.alike stepped with ⟨rfl, alone⟩ | ⟨rfl, alone⟩
    · exact ⟨_, History.play?_single (History.move?_act alone), List.getElem?_set_self inside,
        mirrors.alike.of_tokens same⟩
    · exact ⟨_, History.play?_single (History.move?_act alone), List.getElem?_set_self inside,
        (mirrors.alike.cancel _).of_tokens same⟩
  | called found there resting =>
    cases own
    cases mirrors.member.symm.trans found
    right
    simp only [FleetMove.alone_call, Option.toList_some]
    exact ⟨_, History.play?_single (History.move?_call resting), List.getElem?_set_self inside,
      mirrors.alike.of_tokens (call_spares _)⟩
  | dropped found _ _ =>
    -- The consumer goes away with this move.
    cases own
    exact Or.inl ⟨_, List.getElem?_set_self inside, rfl⟩

/-- A run does in the fleet what it does alone with the moves that are its own, until its consumer goes away. -/
theorem play (mirrors : fleet.Mirrors place solo) (apart : fleet.KeepsApart)
    (played : fleet.play? sources moves = some last) :
    last.Left place ∨
      ∃ solo', solo.play? sources (moves.filterMap (FleetMove.alone place)) = some solo' ∧
        last.Mirrors place solo' := by
  -- The run alone makes those moves of the fleet, one after the other, that are its own or a cancellation.
  induction moves generalizing fleet solo with
  | nil =>
    cases played
    exact Or.inr ⟨solo, rfl, mirrors⟩
  | cons move rest ih =>
    obtain ⟨next, moved, played⟩ := Option.bind_eq_some_iff.mp played
    have moved := move?_moved moved
    have stepped : next.Left place ∨
        ∃ solo', solo.play? sources (move.alone place).toList = some solo' ∧ next.Mirrors place solo' := by
      by_cases own : move.IsBy place
      · exact mirrors.step_own moved own
      · exact Or.inr (mirrors.step_other apart moved own)
    -- Once its consumer is away it stays away.
    rcases stepped with left | ⟨solo', alone, mirrors'⟩
    · exact Or.inl (left.play played)
    · refine (ih mirrors' (apart.step moved) played).imp_right fun ⟨solo'', onward, mirrors''⟩ => ?_
      refine ⟨solo'', ?_, mirrors''⟩
      have split : (move :: rest).filterMap (FleetMove.alone place) =
          (move.alone place).toList ++ rest.filterMap (FleetMove.alone place) := by
        cases own : move.alone place <;> simp [own]
      rw [split, History.play?_append, alone]
      exact onward

/-- A run may go on in the fleet just if it may go on alone. -/
theorem isSome_act (mirrors : fleet.Mirrors place solo) (actor : Run.Actor) :
    (solo.move? sources (.act actor)).isSome = (fleet.move? sources (.act place actor)).isSome := by
  have same : (solo.run.step sources actor solo.signals).isSome = (solo.run.step sources actor fleet.signals).isSome :=
    Run.isSome_step_alike mirrors.alike
  simp [move?, History.move?, mirrors.member, same]

end Mirrors

end Fleet

/-- A run that reads one module at a time is not left a choice what to answer to so many calls. -/
theorem History.answers_of_single {signals : Signals} {token : CancelToken} {seed : Path} {limit : Nat}
    {moves moves' : List Move} {last last' : History} (single : limit ≤ 1)
    (own : token.own < signals.raised.length)
    (above : ∀ parent, token.parent = some parent → parent < signals.raised.length)
    (calm : ∀ other, .cancel other ∈ moves → other.own ≠ token.own ∧ token.parent ≠ some other.own)
    (calm' : ∀ other, .cancel other ∈ moves' → other.own ≠ token.own ∧ token.parent ≠ some other.own)
    (played : (start signals token seed limit).play? sources moves = some last)
    (played' : (start signals token seed limit).play? sources moves' = some last')
    (resting : last.run.consumer = .resting) (resting' : last'.run.consumer = .resting)
    (length : last'.answers.length = last.answers.length) : last'.answers = last.answers := by
  cases cancelled : signals.isCancelled token with
  | true =>
    -- No module is ever answered.
    have started := (Signals.isCancelled_childToken token own above).trans cancelled
    obtain ⟨later, answers⟩ := answers_of_cancelled started rfl played
    obtain ⟨later', answers'⟩ := answers_of_cancelled started rfl played'
    rw [answers, answers'] at length ⊢
    simp only [List.length_append, List.length_replicate, Nat.add_left_cancel_iff] at length
    rw [length]
  | false =>
    -- The modules come in the order of a search, which leaves no choice.
    obtain ⟨sound, same⟩ := sound_of_play? played
    obtain ⟨sound', same'⟩ := sound_of_play? played'
    have live := live_of_calm cancelled own above calm played
    have live' := live_of_calm cancelled own above calm' played'
    exact (inSequence_of_play? single played live).answers_eq sound live resting
      (inSequence_of_play? single played' live') sound' live' resting' (same'.seed.trans same.seed.symm) length

namespace Fleet

variable {sources : ModuleSources}

/-- Runs that are started with one limit make no difference to each other, even if they share a token. What a run and
its consumer do changes nothing that other tokens see, and no other run. And as long as its consumer is there a run has
got to what it could get to alone with its own calls and its tokens cancelled as they were, and it may go on just as
alone. If it reads one module at a time, and its token is not cancelled meanwhile, its answers are the only ones. -/
theorem runs_do_not_interfere {limit : Nat} {first rest : List FleetMove} {before begun last : Fleet}
    {token : CancelToken} {seed : Path} (reached : ({ limit } : Fleet).play? sources first = some before)
    (launched : before.move? sources (.launch token seed) = some begun)
    (played : begun.play? sources rest = some last) :
    (∀ move place next, move.IsBy place → last.move? sources move = some next → last.Spares place next) ∧
    ∀ member, last.members[before.members.length]? = some member → member.dropped = false →
      ∃ solo, (History.start before.signals token seed limit).play? sources
          (rest.filterMap (FleetMove.alone before.members.length)) = some solo ∧
        solo.run = member.run ∧ solo.answers = member.answers ∧
        (∀ actor, (solo.move? sources (.act actor)).isSome =
          (last.move? sources (.act before.members.length actor)).isSome) ∧
        (limit ≤ 1 → (∀ other, .cancel other ∈ rest → other.own ≠ token.own ∧ token.parent ≠ some other.own) →
          member.run.consumer = .resting →
          ∀ moves last', (History.start before.signals token seed limit).play? sources moves = some last' →
            (∀ other, .cancel other ∈ moves → other.own ≠ token.own ∧ token.parent ≠ some other.own) →
            last'.run.consumer = .resting → last'.answers.length = member.answers.length →
            last'.answers = member.answers) := by
  -- No stop token is known to anybody else, from the first move on.
  have apart := (KeepsApart.start limit).play reached
  have moved := move?_moved launched
  have apart' := apart.step moved
  have same : before.limit = limit := limit_of_play? reached
  -- When it is launched the run is the same in the fleet and alone.
  have mirrors := Mirrors.launched apart moved
  rw [same] at mirrors
  refine ⟨fun move place next own moved => (move?_moved moved).spares (apart'.play played) own, ?_⟩
  intro member found there
  rcases mirrors.play apart' played with ⟨member', found', away⟩ | ⟨solo, alone, mirrors'⟩
  · -- The consumer is still there.
    cases found.symm.trans found'
    cases there.symm.trans away
  · obtain rfl : _ = member := Option.some.inj (mirrors'.member.symm.trans found)
    refine ⟨solo, alone, rfl, rfl, mirrors'.isSome_act, fun single calm resting moves last' played' calm' => ?_⟩
    have known : token ∈ before.tokens := by
      cases moved
      assumption
    obtain ⟨own, above⟩ := apart.known token known
    -- The run alone is cancelled only when somebody cancels a token in the fleet.
    refine History.answers_of_single single own above (fun other member => calm other ?_) calm' alone played' resting
    obtain ⟨move, listed, cancels⟩ := List.mem_filterMap.mp member
    exact FleetMove.cancel_of_alone cancels ▸ listed

/-- What a run may do at a certain place. -/
def movesAt (place : Nat) (moves : List Move) : List FleetMove :=
  moves.map fun move =>
    match move with
    | .act actor => .act place actor
    | .call => .call place
    | .cancel token => .cancel token

/-- Two runs take turns until each has answered a call; then the first consumer goes away and the other one calls. -/
def firstLeaves : List FleetMove :=
  ((movesAt 0 (History.callAfter 3)).zip (movesAt 1 (History.callAfter 3))).flatMap (fun both => [both.1, both.2]) ++
    .drop 0 :: movesAt 1 (History.callAfter 6)

/-- A run goes on as it would alone when the consumer of another one goes away that has the same token and seed. -/
theorem second_goes_on :
    let sources : ModuleSources := .ofGraph [(⟨['a']⟩, [⟨['b']⟩]), (⟨['b']⟩, [])] fun _ => .ok none
    let first : List FleetMove := [.makeToken, .launch ⟨0, none⟩ ⟨['a']⟩]
    ∃ before begun last next gone member, ({ limit := 1 } : Fleet).play? sources first = some before ∧
      before.move? sources (.launch ⟨0, none⟩ ⟨['a']⟩) = some begun ∧ begun.play? sources firstLeaves = some last ∧
      last.members[0]? = some gone ∧ gone.dropped = true ∧ last.members[1]? = some member ∧
      (answeredModules member.answers).map (·.path) = [⟨['a']⟩, ⟨['b']⟩] ∧
      (∀ moves last', (History.start before.signals ⟨0, none⟩ ⟨['a']⟩ 1).play? sources moves = some last' →
        (∀ other, .cancel other ∉ moves) → last'.run.consumer = .resting →
        last'.answers.length = member.answers.length → last'.answers = member.answers) ∧
      last.move? sources (.drop 1) = some next ∧ last.Spares 1 next := by
  intro sources first
  have ran : (({ limit := 1 } : Fleet).play? sources first).any (fun before => before.members.length = 1 ∧
      (before.move? sources (.launch ⟨0, none⟩ ⟨['a']⟩)).any fun begun =>
        (begun.play? sources firstLeaves).any fun last => last.members[0]?.any (·.dropped) ∧
          last.members[1]?.any (fun member => member.dropped = false ∧
            (answeredModules member.answers).map (·.path) = [⟨['a']⟩, ⟨['b']⟩]) ∧
          (last.move? sources (.drop 1)).isSome) = true := by
    decide +kernel
  -- Each of the moves is looked up in the run of all of them.
  obtain ⟨before, reached, facts⟩ := (Option.any_eq_true ..).mp ran
  obtain ⟨one, facts⟩ := of_decide_eq_true facts
  obtain ⟨begun, launched, facts⟩ := (Option.any_eq_true ..).mp facts
  obtain ⟨last, played, facts⟩ := (Option.any_eq_true ..).mp facts
  obtain ⟨left, here, leaves⟩ := of_decide_eq_true facts
  obtain ⟨gone, first, away⟩ := (Option.any_eq_true ..).mp left
  obtain ⟨member, found, facts⟩ := (Option.any_eq_true ..).mp here
  obtain ⟨there, paths⟩ := of_decide_eq_true facts
  obtain ⟨next, moved⟩ := Option.isSome_iff_exists.mp leaves
  obtain ⟨spares, alike⟩ := runs_do_not_interfere reached launched played
  rw [one] at alike
  obtain ⟨solo, alone, same, answers, onward, only⟩ := alike member found there
  have resting : member.run.consumer = .resting := by
    cases move?_moved moved with
    | dropped found' _ resting =>
      cases found.symm.trans found'
      exact resting
  have calm : ∀ other, .cancel other ∉ firstLeaves := by simp [firstLeaves, movesAt, History.callAfter]
  refine ⟨before, begun, last, next, gone, member, reached, launched, played, first, away, found, paths, ?_, moved,
    spares (.drop 1) 1 next rfl moved⟩
  intro moves last' played' quiet resting' length
  exact only (Nat.le_refl 1) (fun other listed => absurd listed (calm other)) resting moves last' played'
    (fun other listed => absurd listed (quiet other)) resting' length

end Fleet

end ModuleScope
