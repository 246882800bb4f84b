import Mathlib.Data.List.Basic
import ModuleScope.Proofs.Filter.Calls

/-! What filters answer depends on the texts that were accepted, whatever their order, and each further text can only
take from what is covered and add to what is excluded. -/

namespace ModuleScope

namespace Filter

variable {filter other : Filter}

/-- Rules that all agree, of which there is one, still agree if some of them are left out and one is kept. -/
theorem agree_of_subset {rules more : List CoverageRule} {verdict : CoverageRule → Bool} (subset : rules ⊆ more)
    (some : rules ≠ []) (agreed : (!more.isEmpty && more.all verdict) = true) :
    (!rules.isEmpty && rules.all verdict) = true := by
  rw [Bool.and_eq_true, List.all_eq_true, Bool.not_eq_true', List.isEmpty_eq_false_iff] at agreed ⊢
  exact ⟨some, fun rule member => agreed.2 rule (subset member)⟩

/-- The same rules agree alike, in whatever order and how often they are asked. -/
theorem agree_eq_of_subset {rules others : List CoverageRule} (verdict : CoverageRule → Bool) (one : rules ⊆ others)
    (also : others ⊆ rules) : (!rules.isEmpty && rules.all verdict) = (!others.isEmpty && others.all verdict) := by
  by_cases none : rules = []
  · -- Without rules nothing is covered on either side.
    subst none
    rw [List.subset_nil.mp also]
  · -- With rules on both sides each filter has only rules that the other one has, too.
    have some : others ≠ [] := fun none' => none (List.subset_nil.mp (none' ▸ one))
    rw [Bool.eq_iff_iff]
    exact ⟨agree_of_subset also some, agree_of_subset one none⟩

/-- One pattern that matches is enough, and it is still there if others join it. -/
theorem matched_of_subset {patterns more : List Pattern} {name : String} (subset : patterns ⊆ more)
    (matched : patterns.any (·.isMatch name) = true) : more.any (·.isMatch name) = true := by
  obtain ⟨pattern, member, hit⟩ := List.any_eq_true.mp matched
  exact List.any_eq_true.mpr ⟨pattern, subset member, hit⟩

/-- Everything that one filter holds is also held by another. -/
def Within (filter other : Filter) : Prop :=
  -- How often it is held, and in which order, does not matter.
  ∀ target, filter.collection target ⊆ other.collection target

/-- The one filter covers no more than the other one, if that has a rule at all, and it excludes no less. -/
structure Narrows (narrow wide : Filter) : Prop where
  /-- An assembly that is covered was covered before. -/
  assembly : wide.coverage ≠ [] → ∀ name, narrow.coversAssembly name = true → wide.coversAssembly name = true
  /-- A class that is covered was covered before. -/
  className : wide.coverage ≠ [] → ∀ name, narrow.coversClass name = true → wide.coversClass name = true
  /-- Both of them together were covered before. -/
  pair : wide.coverage ≠ [] → ∀ assembly className, narrow.covers assembly className = true →
    wide.covers assembly className = true
  /-- An attribute that was excluded still is. -/
  attributeName : ∀ name, wide.excludesAttribute name = true → narrow.excludesAttribute name = true
  /-- A file that was excluded still is. -/
  fileName : ∀ name, wide.excludesFile name = true → narrow.excludesFile name = true

/-- Both filters answer each question alike, whatever the names are. -/
structure AnswersLike (filter other : Filter) : Prop where
  /-- On assemblies. -/
  assembly : ∀ name, filter.coversAssembly name = other.coversAssembly name
  /-- On classes. -/
  className : ∀ name, filter.coversClass name = other.coversClass name
  /-- On classes of assemblies. -/
  pair : ∀ assembly className, filter.covers assembly className = other.covers assembly className
  /-- On attributes. -/
  attributeName : ∀ name, filter.excludesAttribute name = other.excludesAttribute name
  /-- On files. -/
  fileName : ∀ name, filter.excludesFile name = other.excludesFile name

namespace Within

/-- The rules of the one filter are rules of the other. -/
theorem coverage (within : filter.Within other) : filter.coverage ⊆ other.coverage :=
  -- A rule is found again as itself, because it becomes a part in one way only.
  (List.map_subset_iff _ fun _ _ => FilterPart.coverage.inj).mp (within .coverage)

/-- The patterns for attributes of the one filter are those of the other. -/
theorem attributes (within : filter.Within other) : filter.attributes ⊆ other.attributes :=
  (List.map_subset_iff _ fun _ _ => FilterPart.attribute.inj).mp (within .attributes)

/-- The patterns for files of the one filter are those of the other. -/
theorem files (within : filter.Within other) : filter.files ⊆ other.files :=
  (List.map_subset_iff _ fun _ _ => FilterPart.file.inj).mp (within .files)

/-- With more rules less is covered, and with more patterns more is excluded. -/
theorem narrows (within : filter.Within other) : other.Narrows filter where
  assembly some _ := agree_of_subset within.coverage some
  className some _ := agree_of_subset within.coverage some
  pair some assembly className covered := by
    -- Each half is covered for its own reasons.
    rw [covers, Bool.and_eq_true] at covered ⊢
    exact ⟨agree_of_subset within.coverage some covered.1, agree_of_subset within.coverage some covered.2⟩
  attributeName _ := matched_of_subset within.attributes
  fileName _ := matched_of_subset within.files

/-- Two filters that hold the same answer alike. -/
theorem answersLike (one : filter.Within other) (also : other.Within filter) : filter.AnswersLike other := by
  have assembly : ∀ name, filter.coversAssembly name = other.coversAssembly name := fun name =>
    agree_eq_of_subset (·.coversAssembly name) one.coverage also.coverage
  have className : ∀ name, filter.coversClass name = other.coversClass name := fun name =>
    agree_eq_of_subset (·.coversClass name) one.coverage also.coverage
  refine ⟨assembly, className, fun _ _ => ?_, fun name => ?_, fun name => ?_⟩
  · -- A pair is covered if its halves are.
    rw [covers, covers, assembly, className]
  · -- Each filter narrows the other one.
    rw [Bool.eq_iff_iff]
    exact ⟨one.narrows.attributeName name, also.narrows.attributeName name⟩
  · rw [Bool.eq_iff_iff]
    exact ⟨one.narrows.fileName name, also.narrows.fileName name⟩

end Within

end Filter

namespace FilterDraft

variable {calls : List DraftCall} {entry : RuleEntry} {part : FilterPart}

/-- A call yields the rules and patterns of its texts, as far as they are not refused. -/
theorem mem_yield_answer (draft : FilterDraft) (call : DraftCall) :
    part ∈ call.yield (draft.answer call).1 ↔ ∃ entry ∈ call.entries, FilterPart.ofEntry entry = .ok part := by
  cases call with
  | add entry =>
    cases outcome : FilterPart.ofEntry entry with
    | error error =>
      -- A text that is refused yields nothing.
      rw [answer_add_of_error outcome]
      simp [DraftCall.yield, DraftCall.entries, outcome]
    | ok made =>
      rw [answer_add_of_ok outcome]
      simp [DraftCall.yield, RuleEntry.part?_eq_some]
  | addDefaults =>
    -- The default texts are never refused.
    obtain ⟨next, _, answered⟩ := draft.answer_addDefaults
    rw [answered]
    simp [DraftCall.yield, RuleEntry.part?_eq_some]
  | build =>
    rw [answer_build]
    simp [DraftCall.yield, DraftCall.entries]

/-- Calls add the rules and patterns of their texts, as far as they are not refused. -/
theorem mem_added_iff (draft : FilterDraft) :
    part ∈ draft.added calls ↔
      ∃ call ∈ calls, ∃ entry ∈ call.entries, FilterPart.ofEntry entry = .ok part := by
  -- What a text becomes does not depend on the draft, so the calls before it do not matter.
  induction calls generalizing draft with
  | nil => simp [added]
  | cons call rest ih =>
    have split : draft.added (call :: rest) =
        call.yield (draft.answer call).1 ++ (draft.answer call).2.added rest := rfl
    rw [split, List.mem_append, mem_yield_answer, ih]
    simp

/-- The text was accepted: one of the calls was about it, and was answered by adding it. -/
def Accepted (calls : List DraftCall) (entry : RuleEntry) : Prop :=
  ∃ before call later, calls = before ++ call :: later ∧ entry ∈ call.entries ∧
    ((({} : FilterDraft).after before).answer call).1 = .added

/-- A text is accepted if one of the calls is about it and it is a rule or pattern. -/
theorem accepted_iff :
    Accepted calls entry ↔
      (∃ call ∈ calls, entry ∈ call.entries) ∧ ∃ part, FilterPart.ofEntry entry = .ok part := by
  constructor
  · -- The answer of the call says that all its texts were taken.
    rintro ⟨before, call, later, rfl, about, answered⟩
    refine ⟨⟨call, by simp, about⟩, ?_⟩
    cases call with
    | add other =>
      obtain rfl : entry = other := List.mem_singleton.mp about
      cases outcome : FilterPart.ofEntry entry with
      | error error =>
        -- A text that is refused is answered so.
        rw [answer_add_of_error outcome] at answered
        cases answered
      | ok part => exact ⟨part, rfl⟩
    | addDefaults =>
      obtain ⟨next, taken, _⟩ := (({} : FilterDraft).after before).answer_addDefaults
      exact addAll_taken_iff.mp ⟨next, taken⟩ entry about
    | build => cases about
  · -- Wherever the call stands among the others, its text is taken.
    rintro ⟨⟨call, member, about⟩, part, made⟩
    obtain ⟨before, later, rfl⟩ := List.append_of_mem member
    refine ⟨before, call, later, rfl, about, ?_⟩
    cases call with
    | add other =>
      obtain rfl : entry = other := List.mem_singleton.mp about
      rw [answer_add_of_ok made]
    | addDefaults =>
      obtain ⟨next, _, answered⟩ := (({} : FilterDraft).after before).answer_addDefaults
      rw [answered]
    | build => cases about

/-- The filter that is made after calls. -/
def builtAfter (calls : List DraftCall) : Filter := (({} : FilterDraft).after calls).filter

/-- A filter holds the rules and patterns of the texts that were accepted before it was made. -/
theorem mem_builtAfter {target : RuleTarget} :
    part ∈ (builtAfter calls).collection target ↔
      part.target = target ∧ ∃ entry, Accepted calls entry ∧ FilterPart.ofEntry entry = .ok part := by
  -- A draft holds nothing before the first call.
  have none : ({} : FilterDraft).filter.collection target = [] := by cases target <;> rfl
  rw [builtAfter, collection_after, none, List.nil_append, List.mem_filter, mem_added_iff, and_comm]
  refine and_congr (by simp) ?_
  constructor
  · rintro ⟨call, member, entry, about, made⟩
    exact ⟨entry, accepted_iff.mpr ⟨⟨call, member, about⟩, part, made⟩, made⟩
  · rintro ⟨entry, accepted, made⟩
    obtain ⟨⟨call, member, about⟩, _⟩ := accepted_iff.mp accepted
    exact ⟨call, member, entry, about, made⟩

/-- If all texts that the one history accepts are accepted by the other, its filter is held by the other's. -/
theorem within_of_accepted {others : List DraftCall}
    (more : ∀ entry, Accepted calls entry → Accepted others entry) :
    (builtAfter calls).Within (builtAfter others) := by
  intro target part member
  obtain ⟨kind, entry, accepted, made⟩ := mem_builtAfter.mp member
  exact mem_builtAfter.mpr ⟨kind, entry, more entry accepted, made⟩

/-- What has been accepted stays so, whatever calls follow. -/
theorem Accepted.append (accepted : Accepted calls entry) (later : List DraftCall) :
    Accepted (calls ++ later) entry := by
  obtain ⟨before, call, rest, rfl, about, answered⟩ := accepted
  exact ⟨before, call, rest ++ later, by simp, about, answered⟩

/-- Two histories of calls that accept the same texts, in whatever order, how often and among whatever texts that are
refused, lead to filters that answer alike. Calls that follow never let a filter with a rule cover what it has not
covered, nor keep any filter from excluding what it has excluded. -/
theorem filters_answer_by_accepted (calls : List DraftCall) :
    (∀ others, (∀ entry, Accepted calls entry ↔ Accepted others entry) →
      (builtAfter calls).AnswersLike (builtAfter others)) ∧
    ∀ later, (builtAfter (calls ++ later)).Narrows (builtAfter calls) := by
  constructor
  · -- The same texts were accepted, so each filter holds what the other one holds.
    intro others same
    have one : (builtAfter calls).Within (builtAfter others) := within_of_accepted fun entry => (same entry).mp
    have also : (builtAfter others).Within (builtAfter calls) := within_of_accepted fun entry => (same entry).mpr
    exact one.answersLike also
  · -- Whatever was accepted before stays accepted.
    intro later
    exact (within_of_accepted fun entry accepted => accepted.append later).narrows

/-- A rule and a pattern lead to the same answers in either order, also if the rule is given twice and texts that are
refused stand between them. A further rule takes from what the first one covers, while the first one itself has added
to it, as nothing is covered without a rule. -/
theorem orders_answer_alike :
    let rule : DraftCall := .add ⟨.coverage, .wildcard, "+[a*]b"⟩
    let pattern : DraftCall := .add ⟨.files, .wildcard, "*.g"⟩
    let calls := [rule, .add ⟨.files, .regex, "a("⟩, pattern]
    let others := [pattern, .build, rule, .add ⟨.coverage, .regex, "+[a"⟩, rule]
    let later : List DraftCall := [.add ⟨.coverage, .wildcard, "-[ab]c"⟩]
    (∀ entry, Accepted calls entry ↔ Accepted others entry) ∧
      (builtAfter calls).AnswersLike (builtAfter others) ∧
      (builtAfter (calls ++ later)).Narrows (builtAfter calls) ∧
      (builtAfter calls).coversAssembly "ab" = true ∧ (builtAfter (calls ++ later)).coversAssembly "ab" = false ∧
      (builtAfter []).coversAssembly "ab" = false ∧ (builtAfter [rule]).coversAssembly "ab" = true := by
  intro rule pattern calls others later
  have refused : ∀ entry ∈ ([⟨.files, .regex, "a("⟩, ⟨.coverage, .regex, "+[a"⟩] : List RuleEntry),
      (FilterPart.ofEntry entry).toOption.isSome = false := by decide +kernel
  have same : ∀ entry, Accepted calls entry ↔ Accepted others entry := by
    intro entry
    rw [accepted_iff, accepted_iff]
    refine and_congr_left fun accepted => ?_
    obtain ⟨part, made⟩ := accepted
    -- Of the texts in the calls only those two can be this one that are not refused.
    have other : entry ≠ ⟨.files, .regex, "a("⟩ ∧ entry ≠ ⟨.coverage, .regex, "+[a"⟩ := by
      constructor <;> rintro rfl
      · have none := refused _ List.mem_cons_self
        rw [made] at none
        cases none
      · have none := refused _ (List.mem_cons_of_mem _ List.mem_cons_self)
        rw [made] at none
        cases none
    simp [calls, others, rule, pattern, DraftCall.entries, other, or_comm]
  obtain ⟨alike, narrower⟩ := filters_answer_by_accepted calls
  exact ⟨same, alike others same, narrower later, by decide +kernel⟩

end FilterDraft

end ModuleScope
