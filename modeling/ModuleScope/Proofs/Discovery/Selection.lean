import Mathlib.Data.List.Perm.Subperm
import ModuleScope.Discovery.Step

/-! The batch that is selected from the queue: paths that differ from each other and from all seen before. -/

namespace ModuleScope

namespace Path

/-- A path is the same as itself. -/
theorem same_refl (a : Path) : a.Same a := rfl

/-- Being the same does not depend on the order. -/
theorem same_symm {a b : Path} (same : a.Same b) : b.Same a := Eq.symm same

/-- Paths that are the same as one path are the same. -/
theorem same_trans {a b c : Path} (first : a.Same b) (second : b.Same c) : a.Same c :=
  Eq.trans first second

/-- Two paths are not the same. -/
def Differs (a b : Path) : Prop := ¬ a.Same b

/-- Differing does not depend on the order. -/
theorem differs_symm {a b : Path} (differs : a.Differs b) : b.Differs a :=
  fun same => differs (same_symm same)

/-- One of the paths is the same as `path`. -/
def IsAmong (path : Path) (paths : List Path) : Prop := ∃ other ∈ paths, path.Same other

/-- A path that is among some paths is among more paths too. -/
theorem IsAmong.mono {path : Path} {paths more : List Path} (among : path.IsAmong paths)
    (grow : ∀ other ∈ paths, other ∈ more) : path.IsAmong more := by
  obtain ⟨other, member, same⟩ := among
  exact ⟨other, grow other member, same⟩

end Path

/-- Paths that are drawn from different paths are different. -/
theorem pairwise_differs_of_subperm {few many : List Path} (differ : many.Pairwise Path.Differs)
    (drawn : few.Subperm many) : few.Pairwise Path.Differs := by
  -- Differing is symmetric, so the order in which they are drawn does not matter.
  obtain ⟨inner, perm, sublist⟩ := drawn
  exact (differ.sublist sublist).perm perm Path.differs_symm

namespace Run

/-- What is selected counts as seen from then on. -/
theorem selectUnseen_seen (seen paths : List Path) :
    (selectUnseen seen paths).2 = (selectUnseen seen paths).1.reverse ++ seen := by
  -- Each path is put before the ones seen earlier.
  induction paths generalizing seen with
  | nil => rfl
  | cons path rest ih =>
    unfold selectUnseen
    split
    · exact ih seen
    · simp [ih (path :: seen)]

/-- Only what stands in the queue is selected. -/
theorem selectUnseen_sublist (seen paths : List Path) :
    (selectUnseen seen paths).1.Sublist paths := by
  -- Some paths are left out.
  induction paths generalizing seen with
  | nil => exact List.Sublist.refl []
  | cons path rest ih =>
    unfold selectUnseen
    split
    · exact (ih seen).cons path
    · exact (ih (path :: seen)).cons_cons path

/-- Everything that stood in the queue has been seen after the selection. -/
theorem selectUnseen_covers {seen paths : List Path} {path : Path} (member : path ∈ paths) :
    path.IsAmong (selectUnseen seen paths).2 := by
  -- A path is left out only if it was seen, and it is seen if it is not left out.
  induction paths generalizing seen with
  | nil => cases member
  | cons head rest ih =>
    have kept : ∀ other ∈ seen, other ∈ (selectUnseen seen (head :: rest)).2 := by
      intro other old
      rw [selectUnseen_seen]
      exact List.mem_append_right _ old
    unfold selectUnseen at kept ⊢
    split at kept
    · -- The first path has been seen before, so nothing is selected.
      rename_i known
      rw [if_pos known]
      rcases List.mem_cons.mp member with rfl | member
      · obtain ⟨other, old, same⟩ := List.any_eq_true.mp known
        exact ⟨other, kept other old, of_decide_eq_true same⟩
      · exact ih member
    · -- The first path is selected, and from now on it counts as seen.
      rename_i fresh
      rw [if_neg fresh]
      rcases List.mem_cons.mp member with rfl | member
      · refine ⟨path, ?_, Path.same_refl path⟩
        rw [selectUnseen_seen]
        exact List.mem_append_right _ List.mem_cons_self
      · exact ih member

/-- The paths that have been seen differ from each other. -/
theorem selectUnseen_differ {seen : List Path} (differ : seen.Pairwise Path.Differs)
    (paths : List Path) : (selectUnseen seen paths).2.Pairwise Path.Differs := by
  -- A path that is the same as one of those seen is not selected.
  induction paths generalizing seen with
  | nil => exact differ
  | cons path rest ih =>
    unfold selectUnseen
    split
    · exact ih differ
    · -- It differs from all that were seen.
      rename_i fresh
      refine ih (List.pairwise_cons.mpr ⟨fun other old same => fresh ?_, differ⟩)
      exact List.any_eq_true.mpr ⟨other, old, decide_eq_true same⟩

/-- The paths that a run would take from its queue for the next batch and has not seen. -/
def batch (run : Run) : List Path := (selectUnseen run.seen (run.queue.take run.limit)).1

/-- Nothing in the queue is left that has not been seen, once the next batch counts as seen. -/
theorem batch_covers {run : Run} {path : Path} (member : path ∈ run.queue) :
    path ∈ run.queue.drop run.limit ∨ path.IsAmong (run.batch.reverse ++ run.seen) := by
  -- The path is taken from the queue or stays there.
  rw [← List.take_append_drop run.limit run.queue] at member
  rcases List.mem_append.mp member with popped | stays
  · right
    rw [batch, ← selectUnseen_seen]
    exact selectUnseen_covers popped
  · exact Or.inl stays

/-- The next batch consists of paths from the queue. -/
theorem mem_queue_of_mem_batch {run : Run} {path : Path} (member : path ∈ run.batch) :
    path ∈ run.queue :=
  List.mem_of_mem_take ((selectUnseen_sublist _ _).subset member)

/-- The paths that have been seen differ from each other when the next batch is among them. -/
theorem batch_differs {run : Run} (differ : run.seen.Pairwise Path.Differs) :
    (run.batch.reverse ++ run.seen).Pairwise Path.Differs := by
  rw [batch, ← selectUnseen_seen]
  exact selectUnseen_differ differ _

/-- Taking a batch starts workers for it, ends the run, or starts the next round. -/
theorem dispatch_eq (run : Run) :
    run.dispatch =
      { run with
        queue := run.queue.drop run.limit
        seen := run.batch.reverse ++ run.seen
        pops := run.pops + (run.queue.take run.limit).length
        workers := if run.batch = [] then run.workers else run.batch.map fun path => ⟨path, .arriving⟩
        references := if run.batch = [] then run.references else []
        coordinator :=
          if run.batch ≠ [] then .collecting .goOn
          else if run.queue.drop run.limit = [] then .announcing (.finished .completed)
          else .checking } := by
  -- What counts as seen is the batch and what was seen before.
  unfold dispatch
  simp only [selectUnseen_seen, ← batch.eq_def]
  -- Only an empty batch makes it matter whether more is left in the queue.
  by_cases none : run.batch = []
  · by_cases empty : run.queue.drop run.limit = [] <;> simp [none, empty]
  · simp [none]

end Run

end ModuleScope
