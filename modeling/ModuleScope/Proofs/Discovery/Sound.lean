import ModuleScope.Proofs.Discovery.Endings

/-! What holds in every history of a run: what is known of its parts, from its start through every move. -/

namespace ModuleScope.History

/-- All that is known of a history. -/
structure Sound (sources : ModuleSources) (history : History) : Prop where
  /-- The stages fit the run. -/
  orderly : history.run.Orderly
  /-- Each path is read at most once. -/
  ledger : history.run.ReadLedger
  /-- All outcomes are accounted for. -/
  accounts : history.Accounts sources history.run.seed
  /-- Nothing is forgotten from batch to batch. -/
  batches : history.Batches history.run.seed
  /-- The run ends as it should. -/
  endings : history.Endings sources
  /-- Nothing is answered before the first call. -/
  silent : history.run.state = .idle → history.answers = []

variable {sources : ModuleSources} {before after : History} {move : Move}

/-- A run that has been made is sound. -/
theorem sound_start (sources : ModuleSources) (signals : Signals) (token : CancelToken) (seed : Path)
    (limit : Nat) : (start signals token seed limit).Sound sources where
  orderly := Run.orderly_new signals token seed limit
  ledger := ⟨List.Pairwise.nil, (List.nil_sublist _).subperm⟩
  accounts :=
    { accounted := ⟨[], rfl, (List.nil_sublist _).subperm⟩
      reached := fun _ member => by rcases member with member | member | member <;> cases member }
  batches :=
    { wanted := fun _ _ member => by rcases member with member | member | member <;> cases member
      covered := fun started => absurd rfl started
      complete := fun _ _ _ => Nat.zero_le _
      unstopped := fun _ _ => by
        -- The signal of the stop token is the newest one.
        simp [start, Run.new, Signals.childToken, Signals.isRaised] }
  endings :=
    { child := rfl
      bound := fun _ _ due => by cases due
      between := fun _ looking => by cases looking
      modules := fun _ _ => rfl
      last := fun _ gone => by cases gone
      talking := fun _ => rfl
      conclusion := fun ended => by cases ended }
  silent _ := rfl

/-- Nothing is answered without a call. -/
theorem Moved.silent (moved : before.Moved sources move after) (orderly : before.run.Orderly)
    (silent : before.run.state = .idle → before.answers = []) (idle : after.run.state = .idle) :
    after.answers = [] := by
  cases moved with
  | coordinator moved => exact absurd (by cases moved <;> exact idle) (orderly.not_idle moved)
  | worker _ moved => exact silent (by cases moved <;> exact idle)
  | consumer moved =>
    -- The consumer takes steps only in a run that has been asked for something.
    have started : before.run.state ≠ .idle := by
      intro idle
      have resting : before.run.consumer = .resting := by rw [orderly.untouched idle]
      cases moved <;> simp_all
    have resting := congrArg Run.consumer ((orderly.consumer moved).untouched idle)
    cases moved with
    | received _ _ _ _ | answered _ _ _ => exact absurd idle started
    | _ => cases resting
  | called resting =>
    -- After a call the run is idle no longer.
    unfold Run.call at idle
    split at idle <;> simp_all
  | cancelled token foreign => exact silent idle

/-- Every move keeps a history sound. -/
theorem Sound.step (moved : before.Moved sources move after) (sound : before.Sound sources) :
    after.Sound sources where
  orderly := moved.orderly sound.orderly
  ledger := readLedger_step moved sound.ledger
  accounts := moved.sameRun.seed ▸ sound.accounts.step moved sound.orderly
  batches := moved.sameRun.seed ▸ sound.batches.step moved sound.orderly sound.silent
  endings := sound.endings.step moved sound.orderly sound.accounts sound.batches
  silent := moved.silent sound.orderly sound.silent

/-- Every history of a run is sound, and it is about the run that was made. -/
theorem sound_of_play? {signals : Signals} {token : CancelToken} {seed : Path} {limit : Nat}
    {moves : List Move} {last : History}
    (played : (start signals token seed limit).play? sources moves = some last) :
    last.Sound sources ∧ (start signals token seed limit).SameRun last := by
  constructor
  · exact play?_keeps (fun _ _ _ _ moved sound => sound.step moved) played
      (sound_start sources signals token seed limit)
  · exact play?_keeps (fun _ _ _ _ moved same => same.trans moved.sameRun) played (SameRun.refl _)

end ModuleScope.History
