import ModuleScope.Proofs.Discovery.Responses

/-! A run that is asked until it ends: the one schedule is one of the many, and it brings a run to its end. -/

namespace ModuleScope

/-- The first error among answers. -/
def answeredError? (answers : List (Option ModuleOutcome)) : Option ModuleFailure :=
  answers.findSome? fun answer =>
    match answer with
    | some (.error error) => some error
    | _ => none

namespace History

variable {sources : ModuleSources} {history before after : History} {paths : List Path} {most : Nat}

/-- What the history comes to for one who asks until there is no further module. -/
def drained (history : History) : Run.Drained :=
  ⟨answeredModules history.answers, answeredError? history.answers, history.signals, history.run⟩

/-- A history with some modules and then something else comes to these modules and the error in what is else. -/
theorem drained_of_answers {modules : List FoundModule} {others : List (Option ModuleOutcome)}
    (answers : history.answers = (modules.map fun module => some (.ok module)) ++ others)
    (none : answeredModules others = []) :
    history.drained = ⟨modules, answeredError? others, history.signals, history.run⟩ := by
  -- There is no error among the modules, and no module among the others.
  have found : answeredModules (modules.map fun module => some (.ok module)) = modules := by
    simp [answeredModules, List.filterMap_map]
  have fine : answeredError? (modules.map fun module => some (.ok module)) = Option.none := by
    simp [answeredError?, List.findSome?_eq_none_iff]
  have error : answeredError? history.answers = answeredError? others := by
    rw [answers, answeredError?, List.findSome?_append]
    exact congrArg (Option.or · _) fine
  rw [drained, error, answers, answeredModules_append, found, none, List.append_nil]

/-- A run that has answered something else than a module has ended. -/
theorem Sound.ended_of_answer (sound : history.Sound sources) {answer : Option ModuleOutcome}
    (member : answer ∈ history.answers) (other : ∀ module, answer ≠ some (.ok module)) :
    history.run.state.hasEnded = true := by
  by_contra going
  rw [Bool.not_eq_true] at going
  -- As long as the run goes on it has answered nothing but modules.
  rw [sound.endings.talking going] at member
  obtain ⟨module, _, same⟩ := List.mem_map.mp member
  exact other module same.symm

/-- Between two calls a run that has answered modules only has not ended. -/
theorem Sound.going_of_modules (sound : history.Sound sources) (resting : history.run.consumer = .resting)
    {modules : List FoundModule} (answers : history.answers = modules.map fun module => some (.ok module)) :
    history.run.state.hasEnded = false := by
  by_contra ended
  rw [Bool.not_eq_false] at ended
  obtain ⟨error?, later, told⟩ := sound.endings.told
  -- After the end there is an error among the answers, or a call that was answered with nothing.
  have other : ∃ answer ∈ history.answers, ∀ module, answer ≠ some (.ok module) := by
    rw [told.answers]
    rcases (told.settled ended resting).1 with failed | none
    · obtain ⟨error, rfl⟩ := Option.ne_none_iff_exists'.mp failed
      exact ⟨some (.error error), by simp, by simp⟩
    · exact ⟨Option.none, by simp; omega, by simp⟩
  obtain ⟨answer, member, other⟩ := other
  rw [answers] at member
  obtain ⟨module, _, same⟩ := List.mem_map.mp member
  exact other module same.symm

/-- Whatever is done before the end of a run adds no work. -/
theorem Underway.work_le {moves : List Move} (underway : before.Underway sources paths most)
    (played : before.play? sources moves = some after) (going : after.run.state.hasEnded = false) :
    after.run.work most paths.length ≤ before.run.work most paths.length := by
  induction moves generalizing before with
  | nil =>
    cases played
    exact Nat.le_refl _
  | cons move rest ih =>
    -- A run that goes on later has not ended before.
    have early : before.run.state.hasEnded = false := by
      by_contra ended
      rw [Bool.not_eq_false] at ended
      cases going.symm.trans (ended_of_play? played underway.sound.orderly ended)
    obtain ⟨next, moved, rest⟩ := Option.bind_eq_some_iff.mp played
    have later := ih (underway.step (move?_moved moved)) rest
    exact later.trans (work_move underway.sound underway.limit underway.limited early moved).1

/-- Asking until there is no further module brings a run to its end, in one of the ways in which it can go on. -/
theorem Underway.drainFrom_ends {found : List FoundModule} (underway : history.Underway sources paths most)
    (resting : history.run.consumer = .resting)
    (answers : history.answers = found.reverse.map fun module => some (.ok module)) :
    ∃ last, GoesOn sources history last ∧ last.run.state.hasEnded = true ∧ last.run.consumer = .resting ∧
      history.run.drainFrom sources found history.signals = last.drained := by
  -- Each call that is answered with a module leaves less work.
  induction left : history.run.work most paths.length using Nat.strongRecOn generalizing history found with
  | ind _ ih =>
    subst left
    obtain ⟨after, answer, ⟨actors, acted⟩, rests, told, next⟩ := underway.toSteady.next_acts resting
    have called := @move?_call sources history resting
    have goesOn : GoesOn sources history after := (GoesOn.single (by simp) called).trans (Acts.goesOn ⟨actors, acted⟩)
    -- What is known of a run that goes on is kept by the call and by the steps that answer it.
    have between := underway.step (move?_moved called)
    have later := goesOn.underway underway
    rw [Run.drainFrom_of_next next]
    rcases answer with _ | error | module
    · -- No further module: the run has ended, and there is no error.
      have ended := later.sound.ended_of_answer (show none ∈ after.answers by simp [told]) (by simp)
      exact ⟨after, goesOn, ended, rests, (drained_of_answers (answers ▸ told) rfl).symm⟩
    · -- An error is the end, too.
      have ended := later.sound.ended_of_answer (show some (.error error) ∈ after.answers by simp [told]) (by simp)
      exact ⟨after, goesOn, ended, rests, (drained_of_answers (answers ▸ told) rfl).symm⟩
    · -- There may be more.
      have modules : after.answers = (module :: found).reverse.map fun module => some (.ok module) := by
        simp [told, answers]
      have going := later.sound.going_of_modules rests modules
      have before := underway.sound.going_of_modules resting answers
      have less : after.run.work most paths.length < history.run.work most paths.length :=
        Nat.lt_of_le_of_lt (between.work_le acted going) (Run.work_call resting underway.sound.orderly before)
      obtain ⟨last, goesOn', rest⟩ := ih _ less later rests modules rfl
      exact ⟨last, goesOn.trans goesOn', rest⟩

/-- A run that has answered an error has faulted. -/
theorem Sound.faulted_of_error (sound : history.Sound sources) {error : ModuleFailure}
    (found : answeredError? history.answers = some error) : history.run.state = .faulted := by
  obtain ⟨error?, later, told⟩ := sound.endings.told
  have answers := told.answers
  rw [List.append_assoc] at answers
  -- Nothing but the error of the end stands behind the modules.
  have none :
      answeredModules (error?.toList.map (fun error => some (.error error)) ++ List.replicate later none) = [] := by
    cases error? <;> simp [answeredModules]
  have same := congrArg Run.Drained.error? (drained_of_answers answers none)
  have last : answeredError? (error?.toList.map (fun error => some (.error error)) ++ List.replicate later .none) =
      error? := by
    cases error? <;> simp [answeredError?]
  -- So the error that is found is that of the end.
  exact told.faulted error ((same.trans last).symm.trans found)

/-- A run can go on to its end and until its consumer knows. -/
theorem Underway.settles {paths : List Path} {most : Nat} (underway : history.Underway sources paths most) :
    ∃ last, GoesOn sources history last ∧ last.run.state.hasEnded = true ∧ last.run.consumer = .resting := by
  obtain ⟨last, goesOn, ended⟩ := underway.ends
  by_cases resting : last.run.consumer = .resting
  · exact ⟨last, goesOn, ended, resting⟩
  · -- A call is still waiting, and it is answered in some further steps.
    have steady := goesOn.steady underway.toSteady
    obtain ⟨final, _, ⟨actors, played⟩, rests, _⟩ := steady.answerable resting
    -- The steps that answer the call leave the run ended.
    have still := ended_of_play? played steady.sound.orderly ended
    exact ⟨final, goesOn.trans (Acts.goesOn ⟨actors, played⟩), still, rests⟩

end History

end ModuleScope
