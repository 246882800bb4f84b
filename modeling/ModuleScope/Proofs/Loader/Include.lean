import Mathlib.Data.List.Lex
import Mathlib.Data.List.Sort
import ModuleScope.Loader.Include
import ModuleScope.Proofs.Files.Canonical
import ModuleScope.Proofs.Path.FileName

/-! What the pattern of an include line means: one file, or with a star all entries of a directory that fit, each once
and in ascending order. -/

namespace ModuleScope

namespace Path

variable {path : Path} {name : List Char}

/-- A path that ends with a name has a path above it. -/
theorem EndsWith.exists_parent (ends : path.EndsWith name) : ∃ above, path.parent? = some above := by
  obtain ⟨front, whole⟩ := ends
  have member : Part.name name ∈ path.parts := by simp [whole]
  -- What stands at the start of a path is no name, so the name is one of the pieces that follow.
  have piece : ∃ piece ∈ path.split.2, partOf? piece = some (.name name) := by
    rcases List.mem_append.mp member with start | later
    · exact absurd (Option.mem_toList.mp start) (path.split_pieces.2 name)
    · exact List.mem_filterMap.mp later
  obtain ⟨piece, inside, counts⟩ := piece
  -- So something is left when what counts for nothing at the end is dropped.
  have filled : trimEnd path.split.2 ≠ [] := by
    intro none
    rw [trimEnd, List.reverse_eq_nil_iff, List.dropWhile_eq_nil_iff] at none
    have nothing := none piece (List.mem_reverse.mpr inside)
    rw [counts] at nothing
    cases nothing
  obtain ⟨first, rest, split⟩ := List.exists_cons_of_ne_nil filled
  unfold parent?
  simp only [split]
  split <;> simp_all

end Path

namespace FileTree

variable {tree : FileTree} {directory : Path} {name : List Char}

/-- At each place stands one thing. -/
def Single (tree : FileTree) : Prop := (tree.entries.map Prod.fst).Nodup

instance (tree : FileTree) : Decidable tree.Single := inferInstanceAs (Decidable (List.Nodup _))

/-- Something in a directory has the name. -/
def HasEntry (tree : FileTree) (directory : Path) (name : List Char) : Prop :=
  ∃ place, tree.locate directory = .ok place ∧ (tree.entry? (place ++ [name])).isSome = true

/-- The system lists something in a directory under the name: the directory may be listed, and no error comes in the
stead of the name. -/
def Lists (tree : FileTree) (directory : Path) (name : List Char) : Prop :=
  ∃ place, tree.locate directory = .ok place ∧ place ∉ tree.unlisted ∧ place ++ [name] ∉ tree.lost ∧
    (tree.entry? (place ++ [name])).isSome = true

/-- Where every directory may be listed and nothing is lost, all that is in a directory is listed. -/
theorem lists_iff_hasEntry (all : tree.unlisted = []) (whole : tree.lost = []) :
    tree.Lists directory name ↔ tree.HasEntry directory name := by
  simp [Lists, HasEntry, all, whole]

/-- Something stands below a place if where it stands is among the entries. -/
theorem isSome_entry?_concat {place : Location} :
    (tree.entry? (place ++ [name])).isSome = true ↔ place ++ [name] ∈ tree.entries.map Prod.fst := by
  unfold entry?
  rw [if_neg (by simp), List.lookup_isSome_iff, List.mem_map]
  constructor
  · rintro ⟨entry, member, same⟩
    exact ⟨entry, member, (beq_iff_eq.mp same).symm⟩
  · rintro ⟨entry, member, same⟩
    exact ⟨entry, member, beq_iff_eq.mpr same.symm⟩

/-- A place has a name in a directory if it is the one that the name leads to. -/
theorem nameIn_eq_some {place location : Location} :
    nameIn place location = some name ↔ location = place ++ [name] := by
  unfold nameIn
  constructor
  · -- A place below the directory is the directory's with its last name added.
    intro found
    split at found
    · rename_i above
      obtain ⟨front, rfl⟩ := List.getLast?_eq_some_iff.mp found
      rw [List.dropLast_concat] at above
      rw [above]
    · cases found
  · rintro rfl
    rw [List.dropLast_concat, if_pos rfl, List.getLast?_concat]

/-- The text that listing a directory gives for an entry at a place, if it gives one. -/
def textIn? (tree : FileTree) (place location : Location) : Option (List Char) :=
  (tree.listed? place location).bind fun listed => listed.toOption.bind EntryName.text?

/-- Listing a directory gives a text for the place that the text leads to, unless it is lost. -/
theorem textIn?_eq_some {place location : Location} :
    tree.textIn? place location = some name ↔ location = place ++ [name] ∧ place ++ [name] ∉ tree.lost := by
  unfold textIn? listed?
  by_cases lost : location ∈ tree.lost
  · -- An error comes in the stead of the name.
    have nothing : ∀ name, location = place ++ [name] → place ++ [name] ∈ tree.lost := fun _ same => same ▸ lost
    simp only [lost, if_true]
    cases nameIn place location <;> simpa [Except.toOption] using nothing name
  · have kept : location = place ++ [name] → place ++ [name] ∉ tree.lost := fun same => same ▸ lost
    rw [and_iff_left_of_imp kept, ← nameIn_eq_some]
    cases nameIn place location <;> simp [lost, Except.toOption, EntryName.text?]

/-- Of the names that listing a directory gives, those of its entries that are not lost are texts. -/
theorem textNames_names {listed : List (Except OsError EntryName)} (found : tree.names directory = .ok listed) :
    ∃ place, tree.locate directory = .ok place ∧ place ∉ tree.unlisted ∧
      textNames listed = (tree.entries.map Prod.fst).filterMap (tree.textIn? place) := by
  unfold names at found
  cases located : tree.locate directory with
  | error error => simp [located, Bind.bind, Except.bind] at found
  | ok place =>
    simp only [located, Bind.bind, Except.bind] at found
    -- Only what is a directory has names.
    split at found
    · split_ifs at found with closed
      refine ⟨place, rfl, closed, ?_⟩
      rw [← Except.ok.inj found, textNames, List.filterMap_append, List.filterMap_append]
      -- Whatever follows the entries is no text.
      have others : ((tree.rawNames.filterMap fun entry => if entry.1 = place then
          some (Except.ok (ε := OsError) (EntryName.raw entry.2)) else none).filterMap Except.toOption).filterMap
            EntryName.text? = [] := by
        simp only [List.filterMap_filterMap, List.filterMap_eq_nil_iff]
        intro entry _
        split <;> rfl
      rw [others, List.append_nil, List.filterMap_filterMap, List.filterMap_filterMap, List.filterMap_map]
      rfl
    · cases found

/-- The texts among the names that listing a directory gives are those that it lists something under. -/
theorem mem_textNames {listed : List (Except OsError EntryName)} (found : tree.names directory = .ok listed) :
    name ∈ textNames listed ↔ tree.Lists directory name := by
  obtain ⟨place, located, listable, texts⟩ := textNames_names found
  simp [texts, Lists, located, listable, isSome_entry?_concat, textIn?_eq_some, and_comm]

/-- If a directory cannot be listed, nothing in it is. -/
theorem WellFormed.not_lists (formed : tree.WellFormed) {error : OsError}
    (failed : tree.names directory = .error error) : ¬tree.Lists directory name := by
  rintro ⟨place, located, listable, _, stands⟩
  obtain ⟨entry, found⟩ := Option.isSome_iff_exists.mp stands
  -- Whatever stands somewhere stands in a directory, and this one may be listed.
  have above := formed.above found (by simp)
  simp [names, located, above, listable, Bind.bind, Except.bind] at failed

/-- Each text is listed once. -/
theorem Single.nodup_textNames (single : tree.Single) {listed : List (Except OsError EntryName)}
    (found : tree.names directory = .ok listed) : (textNames listed).Nodup := by
  obtain ⟨place, _, _, texts⟩ := textNames_names found
  rw [texts]
  -- Two places with the same name in the same directory are one.
  refine List.Nodup.filterMap ?_ single
  intro first second name one also
  rw [Option.mem_def, textIn?_eq_some] at one also
  rw [one.1, also.1]

end FileTree

namespace Loader

variable {tree : FileTree} {base whole : Path} {name pattern start stop : List Char} {files : List Path}

/-- One name comes before another: it has the lesser character where they differ first, or it ends there. -/
def Precedes : List Char → List Char → Prop := List.Lex (·.toNat < ·.toNat)

instance isStrictTotalOrder_toNat : IsStrictTotalOrder Char (fun c d => c.toNat < d.toNat) where
  irrefl c := Nat.lt_irrefl c.toNat
  trans _ _ _ := Nat.lt_trans
  trichotomous c d before after := Char.toNat_inj.mp (by omega)

instance isOrderConnected_precedes : IsOrderConnected (List Char) Precedes := List.Lex.isOrderConnected _

instance trichotomous_precedes : Std.Trichotomous Precedes := List.Lex.trichotomous _

instance asymm_precedes : Std.Asymm Precedes := List.Lex.asymm _

/-- The files that the path of an include line means. -/
inductive Means (tree : FileTree) (whole : Path) : List Path → Prop
  /-- Without a star in its last name it is one path. -/
  | file (starless : ∀ name, whole.EndsWith name → '*' ∉ name) : Means tree whole [whole]
  /-- With one it is all entries that the system lists in the directory under a name that has what stands before and
  after the first star at its start and end, each once and in ascending order. -/
  | entries {directory : Path} {start stop : List Char} {names : List (List Char)}
    (above : whole.parent? = some directory) (ends : whole.EndsWith (start ++ '*' :: stop)) (first : '*' ∉ start)
    (ascending : names.Pairwise Precedes)
    (fitting : ∀ name, name ∈ names ↔ tree.Lists directory name ∧ ∃ middle, name = start ++ middle ++ stop) :
    Means tree whole (names.map fun name => directory.join ⟨name⟩)

/-- A name without a star is not split. -/
theorem splitAtStar?_starless (starless : '*' ∉ name) : splitAtStar? name = none := by
  have passed : name.dropWhile (· ≠ '*') = [] := by
    rw [List.dropWhile_eq_nil_iff]
    intro c member
    simpa using ne_of_mem_of_not_mem member starless
  rw [splitAtStar?, passed]

/-- A name is split at its first star. -/
theorem splitAtStar?_first (first : '*' ∉ start) : splitAtStar? (start ++ '*' :: stop) = some (start, stop) := by
  have passed : ∀ c ∈ start, decide (c ≠ '*') = true := by
    intro c member
    simpa using ne_of_mem_of_not_mem member first
  have after : (start ++ '*' :: stop).dropWhile (· ≠ '*') = '*' :: stop := by
    rw [List.dropWhile_append_of_pos passed, List.dropWhile_cons_of_neg (by simp)]
  have before : (start ++ '*' :: stop).takeWhile (· ≠ '*') = start := by
    rw [List.takeWhile_append_of_pos passed, List.takeWhile_cons_of_neg (by simp), List.append_nil]
  rw [splitAtStar?, after, before]

/-- A name starts and ends with two texts that do not overlap in it if it is made of them and of what is between. -/
theorem isBetween_iff : isBetween start stop name = true ↔ ∃ middle, name = start ++ middle ++ stop := by
  rw [isBetween, Bool.and_eq_true, Bool.and_eq_true, decide_eq_true_iff, List.isPrefixOf_iff_prefix,
    List.isSuffixOf_iff_suffix]
  constructor
  · rintro ⟨⟨room, rest, rfl⟩, front, same⟩
    -- What follows the start is long enough for all of the end.
    rw [List.length_append] at room
    have short : start.length ≤ front.length := by
      have lengths := congrArg List.length same
      rw [List.length_append, List.length_append] at lengths
      omega
    obtain ⟨middle, rfl⟩ : start <+: front :=
      List.prefix_of_prefix_length_le ⟨rest, rfl⟩ ⟨stop, same⟩ short
    exact ⟨middle, same.symm⟩
  · -- What stands between leaves room for both texts.
    rintro ⟨middle, rfl⟩
    refine ⟨⟨?_, middle ++ stop, by simp⟩, start ++ middle, rfl⟩
    simp only [List.length_append]
    omega

/-- A name comes before another one or is the same if the other one does not come before it. -/
theorem isOrdered_iff {first second : List Char} : isOrdered first second = true ↔ ¬Precedes second first := by
  unfold isOrdered Precedes
  rw [Bool.not_eq_true', ← Bool.not_eq_true, List.lex_eq_true_iff_lex]
  simp only [decide_eq_true_eq]

/-- Sorted names that are all different are in ascending order. -/
theorem pairwise_precedes_mergeSort {names : List (List Char)} (different : names.Nodup) :
    (names.mergeSort isOrdered).Pairwise Precedes := by
  have sorted : (names.mergeSort isOrdered).Pairwise fun first second => isOrdered first second = true := by
    apply List.pairwise_mergeSort
    · intro first second third early late
      rw [isOrdered_iff] at early late ⊢
      intro before
      -- What lies between two names that are in order is on the right side of one of them.
      exact (IsOrderConnected.conn third second first before).elim late early
    · intro first second
      rw [Bool.or_eq_true, isOrdered_iff, isOrdered_iff, ← not_and_or]
      exact fun ⟨before, after⟩ => asymm before after
  have distinct : (names.mergeSort isOrdered).Nodup := (List.mergeSort_perm names isOrdered).nodup_iff.mpr different
  -- Two different names that are in order are in strict order.
  refine sorted.imp₂ ?_ distinct
  intro first second ordered other
  rw [isOrdered_iff] at ordered
  by_contra before
  exact other (Std.Trichotomous.trichotomous first second before ordered)

/-- A pattern with a star is taken to mean the entries that fit, in order. -/
theorem includedFiles_starred {directory : Path} {listed : List (Except OsError EntryName)}
    (above : (base.join ⟨pattern⟩).parent? = some directory)
    (named : (base.join ⟨pattern⟩).fileName? = some (start ++ '*' :: stop)) (first : '*' ∉ start)
    (found : tree.names directory = .ok listed) :
    includedFiles tree base pattern =
      (((FileTree.textNames listed).filter (isBetween start stop)).mergeSort isOrdered).map
        fun name => directory.join ⟨name⟩ := by
  unfold includedFiles
  simp only [above, named, splitAtStar?_first first, found]

/-- The files that a pattern is taken to mean are those that it means, if its path ends with a name. -/
theorem means_includedFiles (formed : tree.WellFormed) (single : tree.Single)
    (ends : (base.join ⟨pattern⟩).EndsWith name) :
    Means tree (base.join ⟨pattern⟩) (includedFiles tree base pattern) := by
  obtain ⟨directory, above⟩ := ends.exists_parent
  have named := Path.fileName?_eq_some.mpr ends
  by_cases starred : '*' ∈ name
  · obtain ⟨start, stop, rfl, first⟩ := List.eq_append_cons_of_mem starred
    cases listed : tree.names directory with
    | error error =>
      -- Nothing is in a directory that cannot be listed.
      unfold includedFiles
      simp only [above, named, splitAtStar?_first first, listed]
      refine .entries above ends first List.Pairwise.nil fun name => ?_
      exact ⟨fun member => absurd member List.not_mem_nil, fun fits => absurd fits.1 (formed.not_lists listed)⟩
    | ok entries =>
      rw [includedFiles_starred above named first listed]
      -- The files are those whose names fit, in the order of the names.
      refine .entries above ends first ?_ fun name => ?_
      · exact pairwise_precedes_mergeSort ((single.nodup_textNames listed).filter _)
      · rw [List.mem_mergeSort, List.mem_filter, FileTree.mem_textNames listed, isBetween_iff]
  · -- Without a star the path means the file that it leads to.
    unfold includedFiles
    simp only [above, named, splitAtStar?_starless starred]
    refine .file fun other also => ?_
    rw [← Path.fileName?_eq_some, named] at also
    exact Option.some.inj also ▸ starred

/-- The path of an include line means the same files in each reading. -/
theorem Means.unique {others : List Path} (one : Means tree whole files) (also : Means tree whole others) :
    files = others := by
  cases one with
  | file starless =>
    -- Without a star it means the one file in both readings.
    cases also with
    | file _ => rfl
    | entries _ ends _ _ _ => exact absurd (by simp) (starless _ ends)
  | entries above ends first ascending fitting =>
    cases also with
    | file starless => exact absurd (by simp) (starless _ ends)
    | entries above' ends' first' ascending' fitting' =>
      obtain rfl := Option.some.inj (above.symm.trans above')
      rw [← Path.fileName?_eq_some] at ends ends'
      obtain ⟨rfl, rfl⟩ := Text.first_mark_unique first first' (Option.some.inj (ends.symm.trans ends'))
      -- Two lists in the same strict order that hold the same names are one.
      have same := ascending.eq_of_mem_iff ascending' fun name => (fitting name).trans (fitting' name).symm
      rw [same]

end Loader

end ModuleScope
