import Mathlib.Data.List.Induction
import ModuleScope.Proofs.Filter.Calls

/-! What a filter holds that is copied from a draft while several callers go on adding to it. -/

namespace ModuleScope

/-- The turn in which a collection is copied. -/
def RuleTarget.turn : RuleTarget → Nat
  | attributes => 0
  | files => 1
  | coverage => 2

/-- The rule or pattern that is added at a moment, if one is. -/
def DraftStep.part? : DraftStep → Option FilterPart
  | add _ entry => entry.part?
  | copy => none

/-- Filters with the same collections are the same. -/
theorem Filter.ext_collection {filter other : Filter}
    (same : ∀ target, filter.collection target = other.collection target) : filter = other := by
  obtain ⟨coverage, attributes, files⟩ := filter
  obtain ⟨coverage', attributes', files'⟩ := other
  -- The parts of each collection are wrapped by kind, which loses nothing.
  have rules : coverage = coverage' := (List.map_inj_right fun _ _ => FilterPart.coverage.inj).mp (same .coverage)
  have first : attributes = attributes' :=
    (List.map_inj_right fun _ _ => FilterPart.attribute.inj).mp (same .attributes)
  have second : files = files' := (List.map_inj_right fun _ _ => FilterPart.file.inj).mp (same .files)
  rw [rules, first, second]

namespace SharedDraft

/-- The filter of what has been added before a moment. -/
def contents (steps : List DraftStep) (moment : Nat) : Filter := (run {} (steps.take moment)).draft.filter

/-- The last step comes after the others. -/
theorem run_concat (shared : SharedDraft) (steps : List DraftStep) (step : DraftStep) :
    shared.run (steps ++ [step]) = (shared.run steps).step step := by
  rw [run, List.foldl_append]
  rfl

/-- One moment adds what is added at it. -/
theorem collection_step (shared : SharedDraft) (step : DraftStep) (target : RuleTarget) :
    (shared.step step).draft.filter.collection target =
      shared.draft.filter.collection target ++ step.part?.toList.filter (·.target = target) := by
  cases step with
  -- Copying adds nothing.
  | copy => simp [SharedDraft.step, DraftStep.part?]
  | add caller entry =>
    show (shared.draft.answer (.add entry)).2.filter.collection target = _
    cases outcome : FilterPart.ofEntry entry with
    | error error =>
      -- A text that is refused adds nothing.
      have nothing : entry.part? = none := by rw [RuleEntry.part?, outcome]; rfl
      rw [FilterDraft.answer_add_of_error outcome, DraftStep.part?, nothing]
      simp
    | ok part =>
      rw [FilterDraft.answer_add_of_ok outcome, FilterDraft.collection_append, DraftStep.part?,
        RuleEntry.part?_eq_some.mpr outcome]
      rfl

/-- A draft holds what has been added at all moments, in their order. -/
theorem collection_run (shared : SharedDraft) (steps : List DraftStep) (target : RuleTarget) :
    (shared.run steps).draft.filter.collection target =
      shared.draft.filter.collection target ++ (steps.filterMap DraftStep.part?).filter (·.target = target) := by
  induction steps generalizing shared with
  | nil => simp [run]
  | cons step rest ih =>
    have parts : (step :: rest).filterMap DraftStep.part? = step.part?.toList ++ rest.filterMap DraftStep.part? := by
      cases found : step.part? <;> simp [found]
    have later := ih (shared.step step)
    rw [collection_step, List.append_assoc, ← List.filter_append, ← parts] at later
    exact later

/-- The contents at a moment are what has been added before it. -/
theorem contents_collection (steps : List DraftStep) (moment : Nat) (target : RuleTarget) :
    (contents steps moment).collection target =
      ((steps.take moment).filterMap DraftStep.part?).filter (·.target = target) := by
  rw [contents, collection_run]
  cases target <;> rfl

/-- Nothing of this kind is added from one moment up to another. -/
def Quiet (steps : List DraftStep) (target : RuleTarget) (start stop : Nat) : Prop :=
  ∀ index step part, start ≤ index → index < stop → steps[index]? = some step → step.part? = some part →
    part.target ≠ target

/-- A collection is the same at two moments just if nothing is added to it in between. -/
theorem contents_eq_iff_quiet {steps : List DraftStep} {target : RuleTarget} {start stop : Nat} (order : start ≤ stop) :
    (contents steps start).collection target = (contents steps stop).collection target ↔
      Quiet steps target start stop := by
  -- What the later moment has in addition is what the steps in between have added.
  have split : steps.take stop = steps.take start ++ (steps.drop start).take (stop - start) := by
    rw [← List.take_add, Nat.add_sub_cancel' order]
  rw [contents_collection, contents_collection, split, List.filterMap_append, List.filter_append,
    List.self_eq_append_right, List.filter_eq_nil_iff]
  constructor
  · -- A step in between that adds something would be seen at the later moment.
    intro none index step part after before found added
    have inside : step ∈ (steps.drop start).take (stop - start) := by
      refine List.mem_iff_getElem?.mpr ⟨index - start, ?_⟩
      rw [List.getElem?_take_of_lt (by omega), List.getElem?_drop, Nat.add_sub_cancel' after]
      exact found
    simpa using none part (List.mem_filterMap.mpr ⟨step, inside, added⟩)
  · -- What is added in between is added by one of these steps.
    intro quiet part member
    obtain ⟨step, inside, added⟩ := List.mem_filterMap.mp member
    obtain ⟨offset, found⟩ := List.mem_iff_getElem?.mp inside
    rw [List.getElem?_take, List.getElem?_drop] at found
    split at found
    · rename_i near
      simpa using quiet (start + offset) step part (Nat.le_add_right _ _) (by omega) found added
    · cases found

/-- Whatever comes later leaves the contents at a moment that has passed as they were. -/
theorem contents_append {steps later : List DraftStep} {moment : Nat} {step : DraftStep}
    (passed : steps[moment]? = some step) : contents (steps ++ later) moment = contents steps moment := by
  have within : moment ≤ steps.length := Nat.le_of_lt (List.getElem?_eq_some_iff.mp passed).1
  rw [contents, contents, List.take_append_of_le_length within]

/-- How many collections have been copied: each at a moment of its own, one after the other. -/
inductive Copied (steps : List DraftStep) : Nat → PartialFilter → Prop
  /-- Nothing has been copied yet. -/
  | nothing : Copied steps 0 {}
  /-- The patterns of attributes have been copied. -/
  | attributes {first : Nat} (copied : steps[first]? = some .copy) :
    Copied steps 1 { attributes? := some (contents steps first).attributes }
  /-- The patterns of files have been copied, too. -/
  | files {first second : Nat} (copied : steps[first]? = some .copy) (copied' : steps[second]? = some .copy)
    (order : first < second) :
    Copied steps 2
      { attributes? := some (contents steps first).attributes, files? := some (contents steps second).files }
  /-- The rules have been copied, too. -/
  | coverage {first second third : Nat} (copied : steps[first]? = some .copy) (copied' : steps[second]? = some .copy)
    (last : steps[third]? = some .copy) (order : first < second) (order' : second < third) :
    Copied steps 3
      { attributes? := some (contents steps first).attributes, files? := some (contents steps second).files
        coverage? := some (contents steps third).coverage }

/-- A moment that has passed is not changed by what comes later. -/
theorem getElem?_of_passed {steps later : List DraftStep} {moment : Nat} {step : DraftStep}
    (passed : steps[moment]? = some step) : (steps ++ later)[moment]? = some step := by
  rw [List.getElem?_append_left (List.getElem?_eq_some_iff.mp passed).1]
  exact passed

/-- What has been copied stays as it is, whatever comes later. -/
theorem Copied.longer {steps : List DraftStep} {count : Nat} {copy : PartialFilter} (copied : Copied steps count copy)
    (later : List DraftStep) : Copied (steps ++ later) count copy := by
  -- Each moment of a copy lies among the steps so far.
  cases copied with
  | nothing => exact .nothing
  | attributes first =>
    rw [← @contents_append _ later _ _ first]
    exact .attributes (getElem?_of_passed first)
  | files first second order =>
    rw [← contents_append first, ← contents_append second]
    exact .files (getElem?_of_passed first) (getElem?_of_passed second) order
  | coverage first second third order order' =>
    rw [← contents_append first, ← contents_append second, ← contents_append third]
    exact .coverage (getElem?_of_passed first) (getElem?_of_passed second) (getElem?_of_passed third) order order'

/-- A copy gets the copying on by one collection, unless all have been copied. -/
theorem Copied.copyNext {steps : List DraftStep} {count : Nat} {copy : PartialFilter}
    (copied : Copied steps count copy) :
    Copied (steps ++ [.copy]) (min (count + 1) 3) (copy.copyNext (run {} steps).draft) := by
  have now : (steps ++ [DraftStep.copy])[steps.length]? = some .copy := List.getElem?_concat_length
  have all : (run {} steps).draft.filter = contents (steps ++ [.copy]) steps.length := by
    rw [contents, List.take_left]
  -- All earlier copies have been made before this moment.
  have before : ∀ {moment : Nat}, steps[moment]? = some .copy → moment < steps.length :=
    fun passed => (List.getElem?_eq_some_iff.mp passed).1
  cases copied with
  | nothing =>
    -- The attributes are copied first.
    have attributes : (run {} steps).draft.attributes = _ := congrArg Filter.attributes all
    show Copied _ _ { attributes? := some (run {} steps).draft.attributes }
    rw [attributes]
    exact .attributes now
  | attributes first =>
    -- Then come the files, and the attributes stay as they were copied.
    have files : (run {} steps).draft.files = _ := congrArg Filter.files all
    show Copied _ _ { attributes? := some _, files? := some (run {} steps).draft.files }
    rw [files, ← contents_append first]
    exact .files (getElem?_of_passed first) now (before first)
  | files first second order =>
    -- The rules come last.
    have coverage : (run {} steps).draft.coverage = _ := congrArg Filter.coverage all
    show Copied _ _ { attributes? := some _, files? := some _, coverage? := some (run {} steps).draft.coverage }
    rw [coverage, ← contents_append first, ← contents_append second]
    exact .coverage (getElem?_of_passed first) (getElem?_of_passed second) now order (before second)
  | coverage first second third order order' =>
    -- A further copy finds nothing left to do.
    exact (Copied.coverage first second third order order').longer [.copy]

/-- Every run keeps to the order of the collections. -/
theorem copied_run (steps : List DraftStep) : Copied steps (min (steps.count .copy) 3) (run {} steps).copy := by
  -- The last step comes last in the induction, too: it sees what all the others have left.
  induction steps using List.reverseRecOn with
  | nil => exact .nothing
  | append_singleton steps step copied =>
    rw [run_concat, List.count_append]
    cases step with
    -- Adding touches nothing that has been copied.
    | add caller entry => exact copied.longer _
    | copy =>
      have one : min (steps.count .copy + [DraftStep.copy].count .copy) 3 = min (min (steps.count .copy) 3 + 1) 3 := by
        rw [List.count_singleton_self]
        omega
      rw [one]
      exact copied.copyNext

/-- The filter has been copied while others may have worked on the draft. -/
structure CopiedAt (steps : List DraftStep) (filter : Filter) (moment : RuleTarget → Nat) : Prop where
  /-- Each collection has a moment at which it is copied. -/
  copies : ∀ target, steps[moment target]? = some .copy
  /-- The attributes are copied before the files, and the files before the rules. -/
  ordered : ∀ first second : RuleTarget, first.turn < second.turn → moment first < moment second
  /-- What is copied is what the draft holds at that moment. -/
  holds : ∀ target, filter.collection target = (contents steps (moment target)).collection target

variable {steps : List DraftStep} {filter : Filter} {moment : RuleTarget → Nat}

/-- As soon as three copies have been made there is a filter. -/
theorem exists_copiedAt (enough : 3 ≤ steps.count .copy) :
    ∃ filter moment, (run {} steps).copy.filter? = some filter ∧ CopiedAt steps filter moment := by
  have copied := copied_run steps
  rw [Nat.min_eq_right enough] at copied
  -- After three copies only the last stage is possible.
  generalize (run {} steps).copy = copy at copied
  cases copied with
  | @coverage first second third copied copied' last order order' =>
    let moment : RuleTarget → Nat
      | .attributes => first
      | .files => second
      | .coverage => third
    refine ⟨_, moment, rfl, ?_, ?_, ?_⟩
    · intro target
      cases target <;> assumption
    · -- The moments come in the turn of the collections.
      intro target later
      cases target <;> cases later <;> simp [RuleTarget.turn, moment] <;> omega
    · intro target
      cases target <;> rfl

/-- The filter is what the draft holds at one moment just if nothing has been added to any collection between this
moment and the one at which the collection is copied. -/
theorem CopiedAt.contents_eq_iff (copied : CopiedAt steps filter moment) (single : Nat) :
    contents steps single = filter ↔
      ∀ target, Quiet steps target (min (moment target) single) (max (moment target) single) := by
  -- Each collection is compared with its own moment.
  have each : ∀ target, (contents steps single).collection target = filter.collection target ↔
      Quiet steps target (min (moment target) single) (max (moment target) single) := by
    intro target
    rw [copied.holds]
    -- The two moments may come in either order.
    rcases Nat.le_total (moment target) single with before | after
    · rw [Nat.min_eq_left before, Nat.max_eq_right before, ← contents_eq_iff_quiet before, eq_comm]
    · rw [Nat.min_eq_right after, Nat.max_eq_left after, ← contents_eq_iff_quiet after]
  constructor
  · intro same target
    rw [← each, same]
  · intro quiet
    exact Filter.ext_collection fun target => (each target).mpr (quiet target)

/-- Of two rules or patterns that are added one after the other, the filter has the first if it has the second and
does not copy the collection of the first before that of the second. -/
theorem CopiedAt.earlier (copied : CopiedAt steps filter moment) {first second : Nat} {target target' : RuleTarget}
    (order : first < second) (turns : target'.turn ≤ target.turn) (later : second < moment target') :
    first < moment target := by
  -- Either both belong to one collection, or that of the earlier one is copied even later.
  rcases Nat.eq_or_lt_of_le turns with same | before
  · have alike : target' = target := by
      revert same
      cases target <;> cases target' <;> decide
    rw [alike] at later
    exact Nat.lt_trans order later
  · exact Nat.lt_trans (Nat.lt_trans order later) (copied.ordered target' target before)

/-- A filter that is copied while several callers add to the draft holds what the draft holds at three moments: when
its attributes, then its files, then its rules are copied. It is what the draft holds at one moment just if nothing
has been added to any of these between that moment and its own. Of two things that a caller has added it has the
earlier if it has the later, provided that the earlier is not copied before the later. -/
theorem copy_of_moments (enough : 3 ≤ steps.count .copy) :
    ∃ filter moment, (run {} steps).copy.filter? = some filter ∧ CopiedAt steps filter moment ∧
      (∀ target, filter.collection target =
        ((steps.take (moment target)).filterMap DraftStep.part?).filter (·.target = target)) ∧
      (∀ single, contents steps single = filter ↔
        ∀ target, Quiet steps target (min (moment target) single) (max (moment target) single)) ∧
      ∀ first second caller entry entry', first < second → steps[first]? = some (.add caller entry) →
        steps[second]? = some (.add caller entry') → entry'.target.turn ≤ entry.target.turn →
          second < moment entry'.target → first < moment entry.target := by
  obtain ⟨filter, moment, done, copied⟩ := exists_copiedAt enough
  refine ⟨filter, moment, done, copied, fun target => ?_, copied.contents_eq_iff, ?_⟩
  · rw [copied.holds, contents_collection]
  · -- Only the order of the two steps matters, and not who took them.
    intro first second caller entry entry' order _ _ turns later
    exact copied.earlier order turns later

/-- A rule that is added after the files have been copied is still copied with the others. -/
theorem copy_with_late_rule :
    let steps : List DraftStep :=
      [.add 0 ⟨.attributes, .wildcard, "A"⟩, .copy, .copy, .add 1 ⟨.coverage, .wildcard, "+[a]b"⟩, .copy]
    ∃ filter moment, (run {} steps).copy.filter? = some filter ∧ CopiedAt steps filter moment ∧
      filter.attributes.length = 1 ∧ filter.coverage.length = 1 := by
  intro steps
  obtain ⟨filter, moment, done, copied, _⟩ := copy_of_moments (show 3 ≤ steps.count .copy by decide)
  have sizes : (run {} steps).copy.filter?.map (fun filter => (filter.attributes.length, filter.coverage.length)) =
      some (1, 1) := by
    decide +kernel
  rw [done, Option.map_some, Option.some.injEq, Prod.mk.injEq] at sizes
  exact ⟨filter, moment, done, copied, sizes⟩

/-- One caller adds a pattern of attributes and then a rule, both after the attributes have been copied. -/
def overtaken : List DraftStep :=
  [.copy, .add 0 ⟨.attributes, .wildcard, "A"⟩, .add 0 ⟨.coverage, .wildcard, "+[a]b"⟩, .copy, .copy]

/-- The filter has the later rule and lacks the earlier pattern, so the draft has never been like that. -/
theorem copy_overtakes_caller :
    ∃ filter, (run {} overtaken).copy.filter? = some filter ∧ (∀ moment, contents overtaken moment ≠ filter) ∧
      filter.coverage.length = 1 ∧ filter.attributes.length = 0 ∧
        (contents overtaken 2).attributes.length = 1 ∧ (contents overtaken 2).coverage.length = 0 := by
  -- There are six moments to look at.
  have never : ∀ moment ≤ 5, ¬((contents overtaken moment).coverage.length = 1 ∧
      (contents overtaken moment).attributes.length = 0) := by
    decide +kernel
  have never' : ∀ moment, ¬((contents overtaken moment).coverage.length = 1 ∧
      (contents overtaken moment).attributes.length = 0) := by
    intro moment
    rcases Nat.le_total moment 5 with before | after
    · exact never moment before
    · -- Nothing happens after the last copy.
      have still : contents overtaken moment = contents overtaken 5 := by
        rw [contents, List.take_of_length_le after]
        rfl
      rw [still]
      exact never 5 (Nat.le_refl 5)
  refine ⟨_, rfl, fun moment same => never' moment ?_, by decide +kernel, by decide +kernel, by decide +kernel,
    by decide +kernel⟩
  rw [same]
  exact ⟨by decide +kernel, by decide +kernel⟩

end SharedDraft

end ModuleScope
