import ModuleScope.Proofs.Filter.Segments

/-! What texts add to a draft depends on the texts alone, and it comes after what the draft holds already. -/

namespace ModuleScope

/-- What is found is what the next step starts from. -/
theorem ok_bind {ε α β : Type} (found : α) (next : α → Except ε β) : (Except.ok found >>= next) = next found := rfl

namespace FilterDraft

/-- What one draft holds, and after it what another one does. -/
def plus (draft more : FilterDraft) : FilterDraft :=
  ⟨draft.coverage ++ more.coverage, draft.attributes ++ more.attributes, draft.files ++ more.files⟩

/-- An empty draft adds nothing. -/
@[simp] theorem plus_empty (draft : FilterDraft) : draft.plus {} = draft := by
  simp [plus]

/-- Nothing stands before what is added to an empty draft. -/
@[simp] theorem empty_plus (draft : FilterDraft) : ({} : FilterDraft).plus draft = draft := by
  simp [plus]

/-- What is added in several goes can be gathered first. -/
theorem plus_assoc (draft middle last : FilterDraft) :
    (draft.plus middle).plus last = draft.plus (middle.plus last) := by
  simp [plus, List.append_assoc]

/-- A rule or pattern comes after those of its kind. -/
theorem append_eq_plus (draft : FilterDraft) (part : FilterPart) :
    draft.append part = draft.plus (({} : FilterDraft).append part) := by
  -- Each kind has a list of its own, and the part comes at its end.
  cases part <;> simp [append, plus]

/-- A text adds the same to every draft, or it is refused by all of them. -/
theorem add_eq_map (draft : FilterDraft) (entry : RuleEntry) :
    draft.add entry = (add {} entry).map draft.plus := by
  -- The draft is not looked at before the text has become a rule or pattern.
  unfold add
  cases FilterPart.ofEntry entry with
  | error error => rfl
  | ok part =>
    have same : draft.append part = draft.plus (({} : FilterDraft).append part) :=
      draft.append_eq_plus part
    exact congrArg Except.ok same

/-- The first text is added before the others. -/
theorem addAll_cons (draft : FilterDraft) (entry : RuleEntry) (rest : List RuleEntry) :
    draft.addAll (entry :: rest) = draft.add entry >>= fun next => next.addAll rest := rfl

/-- Texts add the same to every draft, or one of them is refused by all of them. -/
theorem addAll_eq_map (draft : FilterDraft) (entries : List RuleEntry) :
    draft.addAll entries = (addAll {} entries).map draft.plus := by
  induction entries generalizing draft with
  | nil =>
    -- No text adds anything to what the draft holds.
    have none : draft.plus {} = draft := draft.plus_empty
    exact (congrArg Except.ok none).symm
  | cons entry rest ih =>
    rw [addAll_cons, addAll_cons, draft.add_eq_map]
    cases add {} entry with
    | error error => rfl
    | ok first =>
      -- What the first text gives stands between the draft and what the others give.
      show (draft.plus first).addAll rest = (first.addAll rest).map draft.plus
      rw [ih (draft.plus first), ih first]
      cases addAll {} rest with
      | error error => rfl
      | ok others => exact congrArg Except.ok (draft.plus_assoc first others)

/-- Texts that a draft takes are taken by every draft, and they add the same to it. -/
theorem addAll_eq_ok {draft next : FilterDraft} {entries : List RuleEntry} :
    draft.addAll entries = .ok next ↔ ∃ more, addAll {} entries = .ok more ∧ next = draft.plus more := by
  rw [addAll_eq_map]
  cases addAll {} entries with
  -- The outcome for the empty draft tells that for any other.
  | error error => simp [Except.map]
  | ok more => simp [Except.map, eq_comm]

/-- Texts can be added in two goes. -/
theorem addAll_append (draft : FilterDraft) (first second : List RuleEntry) :
    draft.addAll (first ++ second) = draft.addAll first >>= fun next => next.addAll second :=
  List.foldlM_append

/-- A text of a rule that is added leaves a rule in the draft. -/
theorem coverage_ne_nil_of_mem {draft next : FilterDraft} {entries : List RuleEntry}
    (taken : draft.addAll entries = .ok next) {entry : RuleEntry} (member : entry ∈ entries)
    (rule : entry.target = .coverage) : next.coverage ≠ [] := by
  induction entries generalizing draft with
  | nil => cases member
  | cons head rest ih =>
    obtain ⟨middle, added, taken⟩ := bind_eq_ok taken
    rcases List.mem_cons.mp member with rfl | later
    · -- The rule is there from this text on, as nothing is taken away.
      obtain ⟨part, made, same⟩ := bind_eq_ok added
      obtain ⟨target, form, text⟩ := entry
      subst rule
      obtain ⟨parts, _, _, _, rfl⟩ := FilterPart.ofEntry_coverage_eq_ok.mp made
      cases same
      obtain ⟨more, _, rfl⟩ := addAll_eq_ok.mp taken
      simp [plus, append]
    · exact ih taken later

end FilterDraft

end ModuleScope
