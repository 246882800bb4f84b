import ModuleScope.Filter.Calls
import ModuleScope.Proofs.Filter.Defaults

/-! What filters hold after any calls: what the calls before them have added, and nothing of those that were refused. -/

namespace ModuleScope

/-- What the rule or pattern is added to. -/
def FilterPart.target : FilterPart → RuleTarget
  | .coverage _ => .coverage
  | .attribute _ => .attributes
  | .file _ => .files

/-- The rules or patterns of one kind, in their order. -/
def Filter.collection (filter : Filter) : RuleTarget → List FilterPart
  | .coverage => filter.coverage.map .coverage
  | .attributes => filter.attributes.map .attribute
  | .files => filter.files.map .file

/-- All patterns of a filter, those of its rules included. -/
def Filter.patterns (filter : Filter) : List Pattern :=
  [RuleTarget.coverage, .attributes, .files].flatMap fun target =>
    (filter.collection target).flatMap FilterPart.patterns

/-- The rule or pattern of a text, unless it is refused. -/
def RuleEntry.part? (entry : RuleEntry) : Option FilterPart := (FilterPart.ofEntry entry).toOption

/-- The texts that a call is about. -/
def DraftCall.entries : DraftCall → List RuleEntry
  | add entry => [entry]
  | addDefaults => defaultRules
  | build => []

/-- What a call has added if it was answered so. -/
def DraftCall.yield (call : DraftCall) : DraftAnswer → List FilterPart
  | .added => call.entries.filterMap RuleEntry.part?
  | .refused _ | .built _ => []

/-- The pattern covers whole names and has been compiled with success, so that asking it changes nothing and a name
that it does not match is one that its expression does not match. -/
structure Pattern.Ready (pattern : Pattern) : Prop where
  /-- It has to match the whole name. -/
  anchored : pattern.anchored = true
  /-- Its expression has been compiled, and the outcome decides. -/
  compiled : ∃ regex, pattern.matcher = .ok regex ∧ ∀ name, pattern.isMatch name = regex.isMatch name.toList
  /-- It stays the same, whatever it is asked. -/
  settled : ∀ names, (pattern.matchAll names).2 = pattern

/-- The filter says nothing on account of an expression that does not compile. -/
structure Filter.Ready (filter : Filter) : Prop where
  /-- All its patterns are ready. -/
  patterns : ∀ pattern ∈ filter.patterns, pattern.Ready
  /-- An exclusive rule covers just the names that its expressions have been tried on without a match. -/
  exclusive : ∀ rule ∈ filter.coverage, rule.polarity = .exclusive → ∀ name,
    (rule.coversAssembly name = true ↔
      ∃ regex, rule.assembly.matcher = .ok regex ∧ regex.isMatch name.toList = false) ∧
    (rule.coversClass name = true ↔
      ∃ regex, rule.className.matcher = .ok regex ∧ regex.isMatch name.toList = false)

/-- The pattern of an expression that compiles is ready. -/
theorem Pattern.ofSegment_ready {segment : List Char} (compiles : Compiles segment) :
    (Pattern.ofSegment segment).Ready where
  anchored := rfl
  compiled := by
    obtain ⟨regex, found⟩ := compiles
    -- Compiling the pattern has not changed what it compiles to.
    have outcome : (Pattern.ofSegment segment).matcher = .ok regex := by
      rw [matcher_eq]
      exact found
    refine ⟨regex, outcome, fun name => ?_⟩
    rw [isMatch, outcome]
  settled names := by
    -- Compiling a second time finds what has been kept.
    unfold matchAll
    split <;> rfl

namespace FilterPart

/-- A text becomes a rule or pattern of the kind that it is added to. -/
theorem ofEntry_target {entry : RuleEntry} {part : FilterPart} (made : ofEntry entry = .ok part) :
    part.target = entry.target := by
  obtain ⟨target, form, text⟩ := entry
  cases target with
  | coverage =>
    -- Each kind of text is made into a part of its own kind.
    obtain ⟨parts, _, _, _, rfl⟩ := ofEntry_coverage_eq_ok.mp made
    rfl
  | attributes =>
    obtain ⟨pattern, _, last⟩ := bind_eq_ok made
    cases last
    rfl
  | files =>
    obtain ⟨pattern, _, last⟩ := bind_eq_ok made
    cases last
    rfl

/-- All patterns of what a text becomes are ready. -/
theorem ofEntry_ready {entry : RuleEntry} {part : FilterPart} (made : ofEntry entry = .ok part) :
    ∀ pattern ∈ part.patterns, pattern.Ready := by
  obtain ⟨segments, _, compiles, same⟩ := ofEntry_patterns made
  intro pattern member
  rw [same] at member
  obtain ⟨segment, inside, rfl⟩ := List.mem_map.mp member
  exact Pattern.ofSegment_ready (compiles segment inside)

end FilterPart

namespace RuleEntry

/-- The rule or pattern of a text is there if the text is not refused. -/
theorem part?_eq_some {entry : RuleEntry} {part : FilterPart} :
    entry.part? = some part ↔ FilterPart.ofEntry entry = .ok part := by
  unfold part?
  cases FilterPart.ofEntry entry <;> simp [Except.toOption]

end RuleEntry

namespace FilterDraft

variable {draft next : FilterDraft}

/-- Texts are taken one after the other: the first becomes a rule or pattern, and then the others are taken. -/
theorem addAll_cons_eq_ok {entry : RuleEntry} {rest : List RuleEntry} :
    draft.addAll (entry :: rest) = .ok next ↔
      ∃ part, FilterPart.ofEntry entry = .ok part ∧ (draft.append part).addAll rest = .ok next := by
  rw [addAll_cons, add]
  cases FilterPart.ofEntry entry <;> simp [Bind.bind, Except.bind]

end FilterDraft

namespace DraftM

variable {draft next : FilterDraft}

/-- A program goes on from what its first part has found and left. -/
theorem run_bind {α β : Type} {first : DraftM α} {rest : α → DraftM β} {found : α}
    (ran : first.run draft = (.ok found, next)) : (first >>= rest).run draft = (rest found).run next := by
  simp only [Bind.bind, ExceptT.bind, ExceptT.run, ExceptT.mk, StateT.bind] at ran ⊢
  rw [ran]
  rfl

/-- A text that is a rule or pattern is added. -/
theorem run_add {entry : RuleEntry} {part : FilterPart} (made : FilterPart.ofEntry entry = .ok part) :
    (add entry).run draft = (.ok (), draft.append part) := by
  simp only [add, made]
  rfl

/-- Texts that a draft takes one after the other are taken by the program that adds them. -/
theorem run_forM_add {entries : List RuleEntry} (taken : draft.addAll entries = .ok next) :
    (entries.forM add).run draft = (.ok (), next) := by
  -- The first text leaves the draft that the program for the others starts from.
  induction entries generalizing draft with
  | nil =>
    cases taken
    rfl
  | cons entry rest ih =>
    obtain ⟨part, made, taken⟩ := FilterDraft.addAll_cons_eq_ok.mp taken
    have first : (add entry).run draft = (.ok (), draft.append part) := run_add made
    rw [← ih taken]
    exact run_bind first

end DraftM

namespace FilterDraft

variable {draft next : FilterDraft}

/-- A rule or pattern that is added comes last among those of its kind. -/
theorem collection_append (draft : FilterDraft) (part : FilterPart) (target : RuleTarget) :
    (draft.append part).filter.collection target =
      draft.filter.collection target ++ [part].filter (·.target = target) := by
  cases part <;> cases target <;> simp [append, filter, Filter.collection, FilterPart.target]

/-- Texts that are taken come one after the other behind what the draft holds already. -/
theorem collection_addAll {entries : List RuleEntry} (taken : draft.addAll entries = .ok next) (target : RuleTarget) :
    next.filter.collection target =
      draft.filter.collection target ++ (entries.filterMap RuleEntry.part?).filter (·.target = target) := by
  induction entries generalizing draft with
  | nil =>
    cases taken
    simp
  | cons entry rest ih =>
    obtain ⟨part, made, taken⟩ := addAll_cons_eq_ok.mp taken
    -- The first part comes before those of the other texts.
    rw [ih taken, collection_append, List.filterMap_cons_some (RuleEntry.part?_eq_some.mpr made), List.append_assoc,
      ← List.filter_append, List.singleton_append]

/-- Each of the texts that are taken is a rule or pattern. -/
theorem length_of_addAll {entries : List RuleEntry} (taken : draft.addAll entries = .ok next) :
    (entries.filterMap RuleEntry.part?).length = entries.length := by
  induction entries generalizing draft with
  | nil => rfl
  | cons entry rest ih =>
    obtain ⟨part, made, taken⟩ := addAll_cons_eq_ok.mp taken
    rw [List.filterMap_cons_some (RuleEntry.part?_eq_some.mpr made), List.length_cons, List.length_cons, ih taken]

/-- Texts are taken just if each of them is a rule or pattern. -/
theorem addAll_taken_iff {entries : List RuleEntry} :
    (∃ next, draft.addAll entries = .ok next) ↔ ∀ entry ∈ entries, ∃ part, FilterPart.ofEntry entry = .ok part := by
  induction entries generalizing draft with
  | nil =>
    -- Without texts nothing can be refused.
    constructor
    · intro _ entry member
      cases member
    · intro _
      exact ⟨draft, rfl⟩
  | cons entry rest ih =>
    rw [List.forall_mem_cons]
    constructor
    · intro taken
      obtain ⟨next, taken⟩ := taken
      obtain ⟨part, made, later⟩ := addAll_cons_eq_ok.mp taken
      exact ⟨⟨part, made⟩, ih.mp ⟨next, later⟩⟩
    · -- Whether a text is taken does not depend on the draft that it is added to.
      intro each
      obtain ⟨⟨part, made⟩, others⟩ := each
      obtain ⟨next, later⟩ := (@ih (draft.append part)).mpr others
      exact ⟨next, addAll_cons_eq_ok.mpr ⟨part, made, later⟩⟩

/-- The text of a rule or pattern is answered by adding it. -/
theorem answer_add_of_ok {entry : RuleEntry} {part : FilterPart} (made : FilterPart.ofEntry entry = .ok part) :
    draft.answer (.add entry) = (.added, draft.append part) := by
  have done : (DraftCall.add entry).program.run draft = (.ok .added, draft.append part) :=
    DraftM.run_bind (DraftM.run_add made)
  rw [answer, done]

/-- A text that is refused leaves the draft as it is. -/
theorem answer_add_of_error {entry : RuleEntry} {error : RuleError}
    (refused : FilterPart.ofEntry entry = .error error) : draft.answer (.add entry) = (.refused error, draft) := by
  simp only [answer, DraftCall.program, DraftM.add, refused]
  rfl

/-- The platform's own modules can always be excluded. -/
theorem answer_addDefaults (draft : FilterDraft) :
    ∃ next, draft.addAll defaultRules = .ok next ∧ draft.answer .addDefaults = (.added, next) := by
  -- The default rules have been shown to be taken as they are.
  have taken : draft.addAll defaultRules = .ok (draft.plus defaultDraft) := draft.addDefaults_eq
  have done : DraftCall.addDefaults.program.run draft = (.ok .added, draft.plus defaultDraft) :=
    DraftM.run_bind (DraftM.run_forM_add taken)
  refine ⟨_, taken, ?_⟩
  rw [answer, done]

/-- The filter that is made holds what the draft holds. -/
theorem answer_build (draft : FilterDraft) : draft.answer .build = (.built draft.filter, draft) := rfl

/-- A call puts what it yields behind what the draft holds already. -/
theorem collection_answer (draft : FilterDraft) (call : DraftCall) (target : RuleTarget) :
    (draft.answer call).2.filter.collection target =
      draft.filter.collection target ++ (call.yield (draft.answer call).1).filter (·.target = target) := by
  cases call with
  | add entry =>
    cases outcome : FilterPart.ofEntry entry with
    | error error =>
      -- A text that is refused leaves the draft as it was.
      rw [answer_add_of_error outcome]
      simp [DraftCall.yield]
    | ok part =>
      rw [answer_add_of_ok outcome, collection_append]
      simp [DraftCall.yield, DraftCall.entries, RuleEntry.part?_eq_some.mpr outcome]
  | addDefaults =>
    obtain ⟨next, taken, answered⟩ := draft.answer_addDefaults
    rw [answered]
    exact collection_addAll taken target
  | build =>
    -- Making a filter changes nothing.
    rw [answer_build]
    simp [DraftCall.yield]

/-- What calls have added, in the order of the calls. -/
def added (draft : FilterDraft) (calls : List DraftCall) : List FilterPart :=
  (List.zipWith DraftCall.yield calls (draft.answers calls)).flatten

/-- Calls put what they add behind what the draft holds already, one after the other. -/
theorem collection_after (draft : FilterDraft) (calls : List DraftCall) (target : RuleTarget) :
    (draft.after calls).filter.collection target =
      draft.filter.collection target ++ (draft.added calls).filter (·.target = target) := by
  -- What the first call yields stands behind the draft and before what the others yield.
  induction calls generalizing draft with
  | nil => simp [after, added]
  | cons call rest ih =>
    have later := ih (draft.answer call).2
    rw [collection_answer, List.append_assoc, ← List.filter_append] at later
    exact later

/-- Whatever has been added is the rule or pattern of a text. -/
theorem mem_added {calls : List DraftCall} {part : FilterPart} (member : part ∈ draft.added calls) :
    ∃ entry, FilterPart.ofEntry entry = .ok part := by
  obtain ⟨several, inside, member⟩ := List.mem_flatten.mp member
  obtain ⟨index, within, rfl⟩ := List.mem_iff_getElem.mp inside
  rw [List.getElem_zipWith] at member
  unfold DraftCall.yield at member
  -- Only a call that was answered by adding yields anything.
  split at member
  · obtain ⟨entry, _, found⟩ := List.mem_filterMap.mp member
    exact ⟨entry, RuleEntry.part?_eq_some.mp found⟩
  · cases member
  · cases member

/-- Later calls are answered after the earlier ones, and do not change their answers. -/
theorem answers_append (draft : FilterDraft) (before later : List DraftCall) :
    draft.answers (before ++ later) = draft.answers before ++ (draft.after before).answers later := by
  induction before generalizing draft with
  | nil => rfl
  | cons call rest ih =>
    show (draft.answer call).1 :: (draft.answer call).2.answers (rest ++ later) = _
    rw [ih]
    rfl

/-- Each call is answered. -/
theorem length_answers (draft : FilterDraft) (calls : List DraftCall) :
    (draft.answers calls).length = calls.length := by
  induction calls generalizing draft with
  | nil => rfl
  | cons call rest ih => exact congrArg (· + 1) (ih _)

/-- All patterns of a filter that has been made by calls are ready. -/
theorem after_ready (calls : List DraftCall) : (({} : FilterDraft).after calls).filter.Ready := by
  have ready : ∀ target, ∀ part ∈ (({} : FilterDraft).after calls).filter.collection target,
      ∀ pattern ∈ part.patterns, pattern.Ready := by
    intro target part member
    rw [collection_after] at member
    -- Nothing was there before the first call.
    rcases List.mem_append.mp member with before | now
    · cases target <;> cases before
    · obtain ⟨entry, made⟩ := mem_added (List.mem_filter.mp now).1
      exact FilterPart.ofEntry_ready made
  constructor
  · intro pattern member
    obtain ⟨target, _, inside⟩ := List.mem_flatMap.mp member
    obtain ⟨part, found, member⟩ := List.mem_flatMap.mp inside
    exact ready target part found pattern member
  · intro rule member exclusive name
    have both := ready .coverage (.coverage rule) (List.mem_map_of_mem member)
    have opposite : ∀ pattern : Pattern, pattern.Ready → (Polarity.exclusive.verdict (pattern.isMatch name) = true ↔
        ∃ regex, pattern.matcher = .ok regex ∧ regex.isMatch name.toList = false) := by
      intro pattern ready
      obtain ⟨regex, found, decides⟩ := ready.compiled
      rw [decides, found]
      simp [Polarity.verdict]
    rw [CoverageRule.coversAssembly, CoverageRule.coversClass, exclusive]
    exact ⟨opposite _ (both _ (by simp [FilterPart.patterns])), opposite _ (both _ (by simp [FilterPart.patterns]))⟩

/-- What a call is answered, given the calls before it. -/
inductive Accounted (before : List DraftCall) : DraftCall → DraftAnswer → Prop
  /-- A text is added as one rule or pattern of its kind, which is made of its expressions. -/
  | added {entry : RuleEntry} {part : FilterPart} {segments : List (List Char)}
    (one : (DraftCall.add entry).yield .added = [part]) (kind : part.target = entry.target)
    (read : entry.segments = .ok segments) (made : part.patterns = segments.map Pattern.ofSegment) :
    Accounted before (.add entry) .added
  /-- A text is refused, and the draft stays as it was. -/
  | refused {entry : RuleEntry} {error : RuleError} (reason : FilterPart.ofEntry entry = .error error)
    (same : ({} : FilterDraft).after (before ++ [.add entry]) = ({} : FilterDraft).after before) :
    Accounted before (.add entry) (.refused error)
  /-- The five rules for the platform's own modules are added. -/
  | defaults (five : (DraftCall.addDefaults.yield .added).length = 5)
    (rules : ∀ part ∈ DraftCall.addDefaults.yield .added, part.target = .coverage) :
    Accounted before .addDefaults .added
  /-- A filter is made, which holds just what the calls before have added, and says nothing on account of an
  expression that does not compile. -/
  | built {filter : Filter}
    (holds : ∀ target, filter.collection target = (({} : FilterDraft).added before).filter (·.target = target))
    (ready : filter.Ready) : Accounted before .build (.built filter)

/-- A call is answered by what has been added before it. -/
theorem answer_accounted (before : List DraftCall) (call : DraftCall) :
    Accounted before call ((({} : FilterDraft).after before).answer call).1 := by
  -- The draft after the call is the one that it leaves.
  have next : ({} : FilterDraft).after (before ++ [call]) = ((({} : FilterDraft).after before).answer call).2 := by
    rw [after, List.foldl_append]
    rfl
  cases call with
  | add entry =>
    cases outcome : FilterPart.ofEntry entry with
    | error error =>
      rw [answer_add_of_error outcome] at next ⊢
      exact .refused outcome next
    | ok part =>
      rw [answer_add_of_ok outcome]
      obtain ⟨segments, read, _, made⟩ := FilterPart.ofEntry_patterns outcome
      refine .added ?_ (FilterPart.ofEntry_target outcome) read made
      simp [DraftCall.yield, DraftCall.entries, RuleEntry.part?_eq_some.mpr outcome]
  | addDefaults =>
    obtain ⟨_, taken, answered⟩ := (({} : FilterDraft).after before).answer_addDefaults
    rw [answered]
    refine .defaults (length_of_addAll taken) fun part member => ?_
    obtain ⟨entry, inside, found⟩ := List.mem_filterMap.mp member
    obtain ⟨text, _, rfl⟩ := List.mem_map.mp inside
    exact FilterPart.ofEntry_target (RuleEntry.part?_eq_some.mp found)
  | build =>
    rw [answer_build]
    refine .built (fun target => ?_) (after_ready before)
    rw [collection_after]
    cases target <;> rfl

/-- Each call is answered, whatever comes after it, by what the calls before it have added: a text is added as one
rule or pattern or refused without a trace, the defaults are always added as five rules, and a filter holds what has
been added, in this order, with no pattern that does not compile. -/
theorem answers_accounted (before : List DraftCall) (call : DraftCall) :
    ∃ answer, Accounted before call answer ∧
      ∀ later, (({} : FilterDraft).answers (before ++ call :: later))[before.length]? = some answer := by
  refine ⟨_, answer_accounted before call, fun later => ?_⟩
  -- Those before are as many as their answers.
  have place : (({} : FilterDraft).answers before).length ≤ before.length := Nat.le_of_eq (length_answers {} before)
  rw [answers_append, List.getElem?_append_right place, length_answers, Nat.sub_self]
  rfl

/-- A text that is refused leaves nothing behind, and the defaults are added after it. -/
example : (({} : FilterDraft).after [.add ⟨.files, .regex, "a("⟩, .addDefaults]).coverage.map (·.display) =
    ["-[mscorlib].*", "-[mscorlib\\..*].*", "-[System].*", "-[System\\..*].*", "-[Microsoft\\.VisualBasic].*"] := by
  decide +kernel

end FilterDraft

end ModuleScope
