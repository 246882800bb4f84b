import Mathlib.Data.List.Forall2
import ModuleScope.Loader.Settings
import ModuleScope.Proofs.Files.Ending
import ModuleScope.Proofs.Loader.Include

/-! The directories that loader settings name: those in the files that at most eight include steps lead to. If no chain
of steps is longer, the directories of each file stand in the place where it is included. -/

namespace ModuleScope.Loader

/-- A file is read as a text. -/
def TextAt (tree : FileTree) (file : Path) (text : String) : Prop := tree.read file = .ok text.toUTF8

/-- The words of a line before its comment. -/
def wordsOf (line : List Char) : List (List Char) := Text.words Unicode.isBlank (line.takeWhile (· ≠ '#'))

/-- The words of a line before its comment, if colons and commas end words too. -/
def tokensOf (line : List Char) : List (List Char) :=
  Text.words (fun c => Unicode.isBlank c || c = ':' || c = ',') (line.takeWhile (· ≠ '#'))

/-- The first word of a line is neither of the two with a meaning of their own. -/
def ListsDirectories (line : List Char) : Prop :=
  ∃ first rest, wordsOf line = first :: rest ∧ first ≠ "hwcap".toList ∧ first ≠ "include".toList

/-- A file names a directory on one of its lines. -/
def Names (tree : FileTree) (file directory : Path) : Prop :=
  ∃ text, TextAt tree file text ∧ ∃ line ∈ linesOf text.toList, ListsDirectories line ∧ directory.chars ∈ tokensOf line

/-- A file includes another one on one of its lines. -/
def Includes (tree : FileTree) (file next : Path) : Prop :=
  ∃ text, TextAt tree file text ∧ ∃ line ∈ linesOf text.toList, ∃ patterns,
    wordsOf line = "include".toList :: patterns ∧ ∃ pattern ∈ patterns, ∃ files,
      Means tree ((directoryOf file).join ⟨pattern⟩) files ∧ next ∈ files

/-- So many include steps lead from one file to another. -/
inductive IncludeChain (tree : FileTree) : Nat → Path → Path → Prop
  /-- A file leads to itself. -/
  | here (file : Path) : IncludeChain tree 0 file file
  /-- A file leads where those lead that it includes. -/
  | step {steps : Nat} {file next last : Path} (included : Includes tree file next)
    (chain : IncludeChain tree steps next last) : IncludeChain tree (steps + 1) file last

/-- A part of what a file says. -/
inductive Item
  /-- A directory. -/
  | directory (path : Path)
  /-- A file that is to be read in this place. -/
  | file (path : Path)
deriving DecidableEq

/-- What a line says in a file of the directory `base`. -/
inductive LineHolds (tree : FileTree) (base : Path) (line : List Char) : List Item → Prop
  /-- A line without words says nothing. -/
  | blank (words : wordsOf line = []) : LineHolds tree base line []
  /-- A line about the hardware says nothing. -/
  | hardware {rest : List (List Char)} (words : wordsOf line = "hwcap".toList :: rest) : LineHolds tree base line []
  /-- An include line says the files of its patterns, one pattern after the other. -/
  | includes {patterns : List (List Char)} {several : List (List Path)}
    (words : wordsOf line = "include".toList :: patterns)
    (meant : List.Forall₂ (fun pattern files => Means tree (base.join ⟨pattern⟩) files) patterns several) :
    LineHolds tree base line (several.flatten.map .file)
  /-- Any other line says its tokens. -/
  | directories (lists : ListsDirectories line) :
    LineHolds tree base line ((tokensOf line).map fun token => .directory ⟨token⟩)

/-- What a file says. -/
inductive FileHolds (tree : FileTree) (file : Path) : List Item → Prop
  /-- A file that cannot be read as a text says nothing. -/
  | unread (textless : ∀ text, ¬TextAt tree file text) : FileHolds tree file []
  /-- A text says what its lines say, one after the other. -/
  | read {text : String} {several : List (List Item)} (found : TextAt tree file text)
    (held : List.Forall₂ (LineHolds tree (directoryOf file)) (linesOf text.toList) several) :
    FileHolds tree file several.flatten

/-- The directories among items once each file is replaced by what it says, as long as there are any. -/
inductive Unfolds (tree : FileTree) : List Item → List Path → Prop
  /-- There is nothing left. -/
  | done : Unfolds tree [] []
  /-- A directory stays where it is. -/
  | directory {path : Path} {rest : List Item} {directories : List Path} (after : Unfolds tree rest directories) :
    Unfolds tree (.directory path :: rest) (path :: directories)
  /-- What a file says stands in its place. -/
  | file {path : Path} {held rest : List Item} {directories : List Path} (holds : FileHolds tree path held)
    (after : Unfolds tree (held ++ rest) directories) : Unfolds tree (.file path :: rest) directories

variable {tree : FileTree} {base file next last path directory : Path} {line pattern : List Char} {text : String}
  {items : List Item} {files directories : List Path} {readFile : Path → List Path} {steps levels : Nat}

/-- Bytes are read as the text whose bytes they are. -/
theorem fromUTF8?_eq_some {content : ByteArray} : String.fromUTF8? content = some text ↔ content = text.toUTF8 := by
  unfold String.fromUTF8?
  constructor
  · intro found
    split at found
    · rw [← Option.some.inj found]
      rfl
    · cases found
  · rintro rfl
    exact dif_pos text.isValidUTF8

/-- Only a file is read as a text, and its path ends with a name. -/
theorem not_textAt_of_nameless (formed : tree.WellFormed) (nameless : ∀ name, ¬file.EndsWith name) :
    ¬TextAt tree file text := by
  intro found
  -- What can be read is a file.
  have isFile : tree.isFile file = true := by
    unfold TextAt FileTree.read at found
    unfold FileTree.isFile
    cases opened : tree.open? file with
    | error error => simp [opened, Bind.bind, Except.bind] at found
    | ok entry => cases entry <;> simp_all [Bind.bind, Except.bind]
  obtain ⟨name, ends⟩ := formed.endsWith_of_isFile isFile
  exact nameless name ends

/-- What a file that is read as a text says is read from its lines. -/
theorem TextAt.linesAt_eq (found : TextAt tree file text) : linesAt tree file = (linesOf text.toList).map readLine := by
  have text' := fromUTF8?_eq_some.mpr (rfl : text.toUTF8 = text.toUTF8)
  unfold linesAt
  unfold TextAt at found
  simp only [found, text']

/-- Whatever is not read as a text says nothing. -/
theorem linesAt_of_textless (textless : ∀ text, ¬TextAt tree file text) : linesAt tree file = [] := by
  unfold linesAt
  split
  · rfl
  · rename_i content read
    split
    · rfl
    · -- Bytes that spell a text would be read as one.
      rename_i text found
      rw [fromUTF8?_eq_some.mp found] at read
      exact absurd read (textless text)

/-- The files that the path of an include line means; a path that does not end with a name is one that is not read. -/
def meantFiles (tree : FileTree) (base : Path) (pattern : List Char) : List Path :=
  if (base.join ⟨pattern⟩).fileName?.isNone then [base.join ⟨pattern⟩] else includedFiles tree base pattern

/-- The path of an include line means these files and no others. -/
theorem means_iff (formed : tree.WellFormed) (single : tree.Single) :
    Means tree (base.join ⟨pattern⟩) files ↔ files = meantFiles tree base pattern := by
  -- It is enough that it means these, as it means the same in each reading.
  have means : Means tree (base.join ⟨pattern⟩) (meantFiles tree base pattern) := by
    unfold meantFiles
    cases named : (base.join ⟨pattern⟩).fileName? with
    | none =>
      refine .file fun name ends => ?_
      rw [← Path.fileName?_eq_some, named] at ends
      cases ends
    | some name => exact means_includedFiles formed single (Path.fileName?_eq_some.mp named)
  exact ⟨fun also => also.unique means, fun same => same ▸ means⟩

/-- The words of a line decide how it is read, and its tokens are what it lists. -/
theorem readLine_eq :
    readLine line =
      match wordsOf line with
      | [] => .nothing
      | first :: rest =>
        if first = "hwcap".toList then .nothing
        else if first = "include".toList then .includes rest
        else .directories ((tokensOf line).map Path.mk) := rfl

/-- A line is read as an include line with these patterns if they follow the word for it. -/
theorem readLine_eq_includes {patterns : List (List Char)} :
    readLine line = .includes patterns ↔ wordsOf line = "include".toList :: patterns := by
  rw [readLine_eq]
  constructor
  · intro read
    split at read
    · cases read
    · rename_i first rest words
      -- The first word is neither missing nor the one for hardware.
      split_ifs at read with _ included
      rw [words, included, Line.includes.inj read]
  · intro words
    rw [words]
    rfl

/-- A line is read as one with directories if it lists them; they are its tokens. -/
theorem readLine_eq_directories :
    readLine line = .directories directories ↔
      ListsDirectories line ∧ directories = (tokensOf line).map Path.mk := by
  rw [readLine_eq]
  constructor
  · intro read
    split at read
    · cases read
    · rename_i first rest words
      -- Neither of the two words stands at the front of such a line.
      split_ifs at read with hardware included
      exact ⟨⟨first, rest, words, hardware, included⟩, (Line.directories.inj read).symm⟩
  · rintro ⟨⟨first, rest, words, hardware, included⟩, rfl⟩
    simp only [words, if_neg hardware, if_neg included]

/-- A line is read as nothing if it has no words or is about the hardware. -/
theorem readLine_eq_nothing :
    readLine line = .nothing ↔ wordsOf line = [] ∨ ∃ rest, wordsOf line = "hwcap".toList :: rest := by
  rw [readLine_eq]
  constructor
  · intro read
    split at read
    · rename_i words
      exact .inl words
    · rename_i first rest words
      split_ifs at read with hardware
      exact .inr ⟨rest, by rw [words, hardware]⟩
  · rintro (words | ⟨rest, words⟩)
    · rw [words]
    · rw [words]
      rfl

/-- Two lists belong together entry by entry if each entry of one has a single one that it belongs to. -/
theorem forall₂_iff_eq_map {α β : Type} {belongs : α → β → Prop} {single : α → β}
    (each : ∀ first second, belongs first second ↔ second = single first) {firsts : List α} {seconds : List β} :
    List.Forall₂ belongs firsts seconds ↔ seconds = firsts.map single := by
  constructor
  · -- Taken apart together, the lists agree entry by entry.
    intro together
    induction together with
    | nil => rfl
    | cons head _ ih => rw [List.map_cons, ← ih, (each _ _).mp head]
  · rintro rfl
    rw [List.forall₂_map_right_iff, List.forall₂_same]
    exact fun first _ => (each _ _).mpr rfl

/-- What a line says, given how it is read in a file of the directory `base`. -/
def lineItems (tree : FileTree) (base : Path) : Line → List Item
  | .nothing => []
  | .includes patterns => (patterns.flatMap (meantFiles tree base)).map .file
  | .directories paths => paths.map .directory

/-- A line says this and nothing else. -/
theorem lineHolds_iff (formed : tree.WellFormed) (single : tree.Single) :
    LineHolds tree base line items ↔ items = lineItems tree base (readLine line) := by
  -- Each pattern means one list of files, and so do all of them together.
  have meant {patterns : List (List Char)} {several : List (List Path)} :
      List.Forall₂ (fun pattern files => Means tree (base.join ⟨pattern⟩) files) patterns several ↔
        several = patterns.map (meantFiles tree base) := by
    apply forall₂_iff_eq_map
    intro pattern files
    exact means_iff formed single
  constructor
  · -- The kind of the line decides how it is read.
    intro holds
    cases holds with
    | blank words => rw [readLine_eq_nothing.mpr (.inl words), lineItems]
    | hardware words => rw [readLine_eq_nothing.mpr (.inr ⟨_, words⟩), lineItems]
    | includes words each =>
      rw [readLine_eq_includes.mpr words, lineItems, meant.mp each, List.flatMap_def]
    | directories lists =>
      rw [readLine_eq_directories.mpr ⟨lists, rfl⟩, lineItems, List.map_map]
      rfl
  · -- However the line is read, it is of the kind that says so.
    rintro rfl
    cases read : readLine line with
    | nothing =>
      rcases readLine_eq_nothing.mp read with words | ⟨rest, words⟩
      · exact .blank words
      · exact .hardware words
    | includes patterns =>
      rw [lineItems, List.flatMap_def]
      exact .includes (readLine_eq_includes.mp read) (meant.mpr rfl)
    | directories paths =>
      obtain ⟨lists, rfl⟩ := readLine_eq_directories.mp read
      rw [lineItems, List.map_map]
      exact .directories lists

/-- What a file says, given how its lines are read. -/
def itemsAt (tree : FileTree) (file : Path) : List Item :=
  (linesAt tree file).flatMap (lineItems tree (directoryOf file))

/-- A file says this and nothing else. -/
theorem fileHolds_iff (formed : tree.WellFormed) (single : tree.Single) :
    FileHolds tree file items ↔ items = itemsAt tree file := by
  -- Each line says one thing, and so do all of them together.
  have held {lines : List (List Char)} {several : List (List Item)} :
      List.Forall₂ (LineHolds tree (directoryOf file)) lines several ↔
        several = lines.map fun line => lineItems tree (directoryOf file) (readLine line) := by
    apply forall₂_iff_eq_map
    intro line items
    exact lineHolds_iff formed single
  constructor
  · -- A file that is no text says nothing, and another one says what its lines do.
    intro holds
    cases holds with
    | unread textless => rw [itemsAt, linesAt_of_textless textless, List.flatMap_nil]
    | read found each =>
      rw [itemsAt, found.linesAt_eq, held.mp each, List.flatMap_def, List.map_map]
      rfl
  · rintro rfl
    -- Either the file is read as a text or it is not.
    by_cases textless : ∀ text, ¬TextAt tree file text
    · rw [itemsAt, linesAt_of_textless textless, List.flatMap_nil]
      exact .unread textless
    · obtain ⟨text, found⟩ := not_forall_not.mp textless
      rw [itemsAt, found.linesAt_eq, List.flatMap_def, List.map_map]
      exact .read found (held.mpr rfl)

/-- A line of a file is read in some way if the file is read as a text that has a line that is. -/
theorem mem_linesAt {said : Line} :
    said ∈ linesAt tree file ↔ ∃ text, TextAt tree file text ∧ ∃ line ∈ linesOf text.toList, readLine line = said := by
  constructor
  · intro member
    -- A file that is no text has no lines.
    by_cases textless : ∀ text, ¬TextAt tree file text
    · rw [linesAt_of_textless textless] at member
      cases member
    · obtain ⟨text, found⟩ := not_forall_not.mp textless
      rw [found.linesAt_eq, List.mem_map] at member
      exact ⟨text, found, member⟩
  · rintro ⟨text, found, line⟩
    rw [found.linesAt_eq, List.mem_map]
    exact line

/-- The directories that a file says are those that it names. -/
theorem directory_mem_itemsAt : .directory directory ∈ itemsAt tree file ↔ Names tree file directory := by
  rw [itemsAt, List.mem_flatMap]
  constructor
  · rintro ⟨said, member, inside⟩
    obtain ⟨text, found, line, written, read⟩ := mem_linesAt.mp member
    cases said with
    | nothing => cases inside
    | includes patterns => simp [lineItems] at inside
    | directories paths =>
      -- Only a line that lists directories names some.
      obtain ⟨lists, rfl⟩ := readLine_eq_directories.mp read
      simp only [lineItems, List.map_map, List.mem_map, Function.comp_apply, Item.directory.injEq] at inside
      obtain ⟨token, among, rfl⟩ := inside
      exact ⟨text, found, line, written, lists, among⟩
  · rintro ⟨text, found, line, written, lists, among⟩
    refine ⟨_, mem_linesAt.mpr ⟨text, found, line, written, readLine_eq_directories.mpr ⟨lists, rfl⟩⟩, ?_⟩
    rw [lineItems, List.map_map]
    exact List.mem_map.mpr ⟨directory.chars, among, rfl⟩

/-- The files that a file says are those that it includes. -/
theorem file_mem_itemsAt (formed : tree.WellFormed) (single : tree.Single) :
    .file next ∈ itemsAt tree file ↔ Includes tree file next := by
  rw [itemsAt, List.mem_flatMap]
  constructor
  · rintro ⟨said, member, inside⟩
    obtain ⟨text, found, line, written, read⟩ := mem_linesAt.mp member
    cases said with
    | nothing => cases inside
    | directories paths => simp [lineItems] at inside
    | includes patterns =>
      simp only [lineItems, List.mem_map, Item.file.injEq, exists_eq_right, List.mem_flatMap] at inside
      obtain ⟨pattern, among, meant⟩ := inside
      exact ⟨text, found, line, written, patterns, readLine_eq_includes.mp read, pattern, among, _,
        (means_iff formed single).mpr rfl, meant⟩
  · rintro ⟨text, found, line, written, patterns, words, pattern, among, files, means, meant⟩
    refine ⟨_, mem_linesAt.mpr ⟨text, found, line, written, readLine_eq_includes.mpr words⟩, ?_⟩
    rw [means_iff formed single] at means
    refine List.mem_map.mpr ⟨next, List.mem_flatMap.mpr ⟨pattern, among, ?_⟩, rfl⟩
    rwa [← means]

/-- The directories that stand in the place of an item, where files are read with `readFile`. -/
def itemDirectories (readFile : Path → List Path) : Item → List Path
  | .directory path => [path]
  | .file path => readFile path

/-- A path that does not end with a name is taken to mean nothing. -/
theorem includedFiles_nameless (nameless : ∀ name, ¬(base.join ⟨pattern⟩).EndsWith name) :
    includedFiles tree base pattern = [] := by
  have none : (base.join ⟨pattern⟩).fileName? = none :=
    Option.eq_none_iff_forall_ne_some.mpr fun name named => nameless name (Path.fileName?_eq_some.mp named)
  simp [includedFiles, none]

/-- Nothing is read from a path that does not end with a name, so it makes no difference that it is left out. -/
theorem flatMap_meantFiles (formed : tree.WellFormed)
    (empty : ∀ file, (∀ text, ¬TextAt tree file text) → readFile file = []) :
    (meantFiles tree base pattern).flatMap readFile = (includedFiles tree base pattern).flatMap readFile := by
  unfold meantFiles
  split
  · rename_i nameless
    have none : ∀ name, ¬(base.join ⟨pattern⟩).EndsWith name := by
      intro name ends
      rw [Path.fileName?_eq_some.mpr ends] at nameless
      cases nameless
    rw [includedFiles_nameless none, List.flatMap_singleton, List.flatMap_nil]
    exact empty _ fun text => not_textAt_of_nameless formed none
  · rfl

/-- A file is read item by item, if nothing is read from what is no text. -/
theorem readSettings_eq (formed : tree.WellFormed)
    (empty : ∀ file, (∀ text, ¬TextAt tree file text) → readFile file = []) :
    readSettings tree readFile file = (itemsAt tree file).flatMap (itemDirectories readFile) := by
  rw [readSettings, itemsAt, List.flatMap_assoc]
  congr 1
  funext line
  cases line with
  | nothing => rfl
  | directories paths => simp [lineItems, itemDirectories, List.flatMap_map]
  | includes patterns =>
    simp only [lineItems, itemDirectories, List.flatMap_map, List.flatMap_assoc, flatMap_meantFiles formed empty]

/-- The directories that are read from a file with fewer than so many include steps. -/
def below (tree : FileTree) : Nat → Path → List Path
  | 0 => fun _ => []
  | steps + 1 => readSettings tree (below tree steps)

/-- Reading with so many levels of other files allows as many include steps. -/
theorem settingsFrom_eq_below : settingsFrom tree levels = below tree (levels + 1) := by
  induction levels with
  | zero => rfl
  | succ levels ih =>
    rw [settingsFrom, ih]
    rfl

/-- With one more include step a file is read item by item. -/
theorem below_succ (formed : tree.WellFormed) :
    below tree (steps + 1) file = (itemsAt tree file).flatMap (itemDirectories (below tree steps)) := by
  refine readSettings_eq formed fun file textless => ?_
  -- What is no text has no items, however many steps are allowed.
  cases steps with
  | zero => rfl
  | succ steps => rw [below, readSettings, linesAt_of_textless textless, List.flatMap_nil]

/-- A directory is read if a file names it that fewer include steps lead to. -/
theorem mem_below (formed : tree.WellFormed) (single : tree.Single) :
    directory ∈ below tree levels path ↔
      ∃ steps < levels, ∃ file, IncludeChain tree steps path file ∧ Names tree file directory := by
  -- A chain is taken apart at its first step, which is the one that the file itself makes.
  induction levels generalizing path with
  | zero => simp [below]
  | succ levels ih =>
    rw [below_succ formed, List.mem_flatMap]
    constructor
    · rintro ⟨item, member, inside⟩
      cases item with
      | directory here =>
        obtain rfl := List.mem_singleton.mp inside
        exact ⟨0, Nat.succ_pos _, path, .here path, directory_mem_itemsAt.mp member⟩
      | file next =>
        -- The chain from the included file is one step longer from here.
        obtain ⟨steps, few, file, chain, names⟩ := ih.mp inside
        have included := (file_mem_itemsAt formed single).mp member
        exact ⟨steps + 1, Nat.succ_lt_succ few, file, .step included chain, names⟩
    · rintro ⟨steps, few, file, chain, names⟩
      cases chain with
      -- The file itself is the first of the chain.
      | here => exact ⟨.directory directory, directory_mem_itemsAt.mpr names, List.mem_singleton_self _⟩
      | step included chain =>
        -- The rest of the chain starts at the included file.
        refine ⟨.file _, (file_mem_itemsAt formed single).mpr included, ?_⟩
        exact ih.mpr ⟨_, Nat.lt_of_succ_lt_succ few, file, chain, names⟩

/-- Two lists of items unfold one after the other. -/
theorem Unfolds.append {rest : List Item} {others : List Path} (first : Unfolds tree items directories)
    (second : Unfolds tree rest others) : Unfolds tree (items ++ rest) (directories ++ others) := by
  induction first with
  | done => exact second
  | directory _ ih => exact .directory ih
  | file holds _ ih =>
    rw [List.append_assoc] at ih
    exact .file holds ih

/-- Items unfold to one list of directories. -/
theorem Unfolds.unique (formed : tree.WellFormed) (single : tree.Single) {others : List Path}
    (one : Unfolds tree items directories) (also : Unfolds tree items others) : directories = others := by
  -- The first item decides which rule applies, and what a file says is settled.
  induction one generalizing others with
  | done =>
    cases also
    rfl
  | directory _ ih =>
    -- A directory is the next one in both lists.
    cases also with
    | directory after => rw [ih after]
  | file holds _ ih =>
    -- What the file says takes its place in both lists.
    cases also with
    | file holds' after =>
      rw [fileHolds_iff formed single] at holds holds'
      rw [holds', ← holds] at after
      exact ih after

/-- Items unfold item by item. -/
theorem unfolds_flatMap (each : ∀ file, .file file ∈ items → Unfolds tree [.file file] (readFile file)) :
    Unfolds tree items (items.flatMap (itemDirectories readFile)) := by
  induction items with
  | nil => exact .done
  | cons item rest ih =>
    -- The items behind unfold to what comes behind.
    have later := ih fun file member => each file (List.mem_cons_of_mem _ member)
    cases item with
    | directory path => exact .directory later
    | file path => exact (each path List.mem_cons_self).append later

/-- A file unfolds to what is read from it if fewer include steps lead on from it. -/
theorem unfolds_below (formed : tree.WellFormed) (single : tree.Single)
    (bounded : ∀ steps last, IncludeChain tree steps file last → steps < levels) :
    Unfolds tree [.file file] (below tree levels file) := by
  induction levels generalizing file with
  -- Even the file itself leads on by no step.
  | zero => exact absurd (bounded 0 file (.here file)) (Nat.not_lt_zero 0)
  | succ levels ih =>
    refine .file ((fileHolds_iff formed single).mpr rfl) ?_
    rw [List.append_nil, below_succ formed]
    -- One include step is taken to each file that is said here.
    apply unfolds_flatMap
    intro next member
    have included := (file_mem_itemsAt formed single).mp member
    exact ih fun steps last chain => Nat.lt_of_succ_lt_succ (bounded (steps + 1) last (.step included chain))

/-- The directories of a settings file are those named by the files that at most eight include steps lead to. If no
chain of steps is longer, the file unfolds to them in their order. A step leads to what its path means, and one whose
path does not end with a name leads to no text. -/
theorem settingsDirectories_within_eight (formed : tree.WellFormed) (single : tree.Single) :
    (∀ directory, directory ∈ settingsDirectories tree path ↔
      ∃ steps ≤ 8, ∃ file, IncludeChain tree steps path file ∧ Names tree file directory) ∧
    ((∀ steps file, IncludeChain tree steps path file → steps ≤ 8) →
      ∀ directories, Unfolds tree [.file path] directories ↔ directories = settingsDirectories tree path) ∧
    ∀ base pattern,
      ((∃ name, (base.join ⟨pattern⟩).EndsWith name) →
        Means tree (base.join ⟨pattern⟩) (includedFiles tree base pattern)) ∧
      ((∀ name, ¬(base.join ⟨pattern⟩).EndsWith name) →
        includedFiles tree base pattern = [] ∧ ∀ text, ¬TextAt tree (base.join ⟨pattern⟩) text) := by
  -- Nine files in a row are read, the first one and those of eight include steps.
  have whole : settingsDirectories tree path = below tree 9 path := congrFun settingsFrom_eq_below path
  refine ⟨fun directory => ?_, fun bounded directories => ?_, fun base pattern => ⟨?_, fun nameless => ⟨?_, ?_⟩⟩⟩
  · rw [whole, mem_below formed single]
    simp only [Nat.lt_succ_iff]
  · -- If no chain is longer nothing is cut off.
    have unfolds : Unfolds tree [.file path] (settingsDirectories tree path) := by
      rw [whole]
      exact unfolds_below formed single fun steps file chain => Nat.lt_succ_of_le (bounded steps file chain)
    exact ⟨fun also => also.unique formed single unfolds, fun same => same ▸ unfolds⟩
  · rintro ⟨name, ends⟩
    exact means_includedFiles formed single ends
  · exact includedFiles_nameless nameless
  · exact fun text => not_textAt_of_nameless formed nameless

/-- The system's settings include the files of a directory, and another file includes itself. -/
def includingTree : FileTree where
  entries :=
    [(["etc".toList], .directory),
      (["etc".toList, "ld.so.conf".toList],
        .file "include more/*.conf\n\n/opt/first:/opt/second # both\nhwcap 0 nosegneg\n".toUTF8 0 0),
      (["etc".toList, "loop.conf".toList], .file "/opt/loop\ninclude loop.conf\n".toUTF8 0 0),
      (["etc".toList, "more".toList], .directory),
      (["etc".toList, "more".toList, "b.conf".toList], .file "/opt/b\n".toUTF8 0 0),
      (["etc".toList, "more".toList, "a.conf".toList], .file "/opt/a\n".toUTF8 0 0),
      (["etc".toList, "more".toList, "notes.txt".toList], .file "/opt/ignored\n".toUTF8 0 0)]
  current := []

/-- What the files of the tree say. -/
theorem includingTree_items :
    itemsAt includingTree systemSettings =
        [.file (.ofString "/etc/more/a.conf"), .file (.ofString "/etc/more/b.conf"),
          .directory (.ofString "/opt/first"), .directory (.ofString "/opt/second")] ∧
      itemsAt includingTree (.ofString "/etc/more/a.conf") = [.directory (.ofString "/opt/a")] ∧
      itemsAt includingTree (.ofString "/etc/more/b.conf") = [.directory (.ofString "/opt/b")] ∧
      itemsAt includingTree (.ofString "/etc/loop.conf") =
        [.directory (.ofString "/opt/loop"), .file (.ofString "/etc/loop.conf")] := by
  refine ⟨?_, by decide +kernel, by decide +kernel, by decide +kernel⟩
  have lines : linesAt includingTree systemSettings =
      [.includes ["more/*.conf".toList], .nothing, .directories (["/opt/first", "/opt/second"].map Path.ofString),
        .nothing] := by
    decide +kernel
  have named : ((directoryOf systemSettings).join ⟨"more/*.conf".toList⟩).fileName? =
      some ([] ++ '*' :: ".conf".toList) := by
    decide +kernel
  have above : ((directoryOf systemSettings).join ⟨"more/*.conf".toList⟩).parent? = some (.ofString "/etc/more") := by
    decide +kernel
  have found : includingTree.names (.ofString "/etc/more") =
      .ok (["b.conf".toList, "a.conf".toList, "notes.txt".toList].map fun name => .ok (.text name)) := by
    rfl
  have fitting : (FileTree.textNames (["b.conf".toList, "a.conf".toList, "notes.txt".toList].map
      fun name => .ok (.text name))).filter (isBetween [] ".conf".toList) = ["b.conf".toList, "a.conf".toList] := by
    decide +kernel
  -- The two names that fit are put in order.
  have sorted : ["b.conf".toList, "a.conf".toList].mergeSort isOrdered = ["a.conf".toList, "b.conf".toList] := by
    refine (pairwise_precedes_mergeSort (by decide +kernel)).eq_of_mem_iff ?_ fun name => ?_
    · exact List.pairwise_pair.mpr (.rel (by decide))
    · exact List.mem_mergeSort.trans (List.Perm.swap _ _ _).mem_iff
  have meant : meantFiles includingTree (directoryOf systemSettings) "more/*.conf".toList =
      ["a.conf".toList, "b.conf".toList].map fun name => (Path.ofString "/etc/more").join ⟨name⟩ := by
    rw [meantFiles, named, Option.isNone_some, if_neg Bool.false_ne_true,
      includedFiles_starred above named List.not_mem_nil found, fitting, sorted]
  rw [itemsAt, lines]
  simp only [List.flatMap_cons, List.flatMap_nil, lineItems, meant]
  rfl

/-- The files of a directory stand in ascending order and before what follows them, and after eight steps from a file
that includes itself it is still read. -/
theorem includingTree_directories :
    includingTree.WellFormed ∧ includingTree.Single ∧
      (∀ steps file, IncludeChain includingTree steps systemSettings file → steps ≤ 8) ∧
      settingsDirectories includingTree systemSettings =
        ["/opt/a", "/opt/b", "/opt/first", "/opt/second"].map Path.ofString ∧
      IncludeChain includingTree 8 (.ofString "/etc/loop.conf") (.ofString "/etc/loop.conf") ∧
      .ofString "/opt/loop" ∈ settingsDirectories includingTree (.ofString "/etc/loop.conf") := by
  have formed : includingTree.WellFormed := by decide +kernel
  have single : includingTree.Single := by decide +kernel
  obtain ⟨system, first, second, loop⟩ := includingTree_items
  -- The included files include nothing.
  have bounded : ∀ steps file, IncludeChain includingTree steps systemSettings file → steps ≤ 8 := by
    intro steps file chain
    cases chain with
    | here => exact Nat.zero_le 8
    | step included chain =>
      rw [← file_mem_itemsAt formed single, system] at included
      cases chain with
      | here => decide
      | step further _ =>
        rw [← file_mem_itemsAt formed single] at further
        simp only [List.mem_cons, Item.file.injEq, reduceCtorEq, List.not_mem_nil, or_false] at included
        rcases included with rfl | rfl
        · simp [first] at further
        · simp [second] at further
  have again : Includes includingTree (.ofString "/etc/loop.conf") (.ofString "/etc/loop.conf") :=
    (file_mem_itemsAt formed single).mp (by simp [loop])
  have around (steps : Nat) :
      IncludeChain includingTree steps (.ofString "/etc/loop.conf") (.ofString "/etc/loop.conf") := by
    induction steps with
    | zero => exact .here _
    | succ steps ih => exact .step again ih
  have names : Names includingTree (.ofString "/etc/loop.conf") (.ofString "/opt/loop") :=
    directory_mem_itemsAt.mp (by simp [loop])
  have holds {file : Path} {items : List Item} (same : items = itemsAt includingTree file) :
      FileHolds includingTree file items :=
    (fileHolds_iff formed single).mpr same
  refine ⟨formed, single, bounded, ?_, around 8, ?_⟩
  · have unfolds : Unfolds includingTree [.file systemSettings]
        (["/opt/a", "/opt/b", "/opt/first", "/opt/second"].map Path.ofString) :=
      .file (holds system.symm) (.file (holds first.symm) (.directory (.file (holds second.symm)
        (.directory (.directory (.directory .done))))))
    exact (((settingsDirectories_within_eight formed single).2.1 bounded _).mp unfolds).symm
  · exact ((settingsDirectories_within_eight formed single).1 _).mpr ⟨8, Nat.le_refl 8, _, around 8, names⟩

/-- The name of a settings file that begins with a byte which no text has. -/
def rawSettings : RawName := ⟨⟨#[0xff]⟩ ++ ".conf".toUTF8, by decide +kernel⟩

/-- A directory to which one link more leads than may be followed. -/
def windingDirectory : String := String.intercalate "/" (List.replicate (FileTree.maxLinks + 1) "l")

/-- The system's settings include what is in a directory that may not be listed, in one where a name is no text and in
one that too many links lead to. -/
def hidingTree : FileTree where
  entries :=
    [(["etc".toList], .directory),
      (["etc".toList, "ld.so.conf".toList],
        .file ("include closed/*.conf\ninclude raw/*.conf\ninclude " ++ windingDirectory ++ "/*.conf\n").toUTF8 0 0),
      (["etc".toList, "closed".toList], .directory),
      (["etc".toList, "closed".toList, "a.conf".toList], .file "/opt/a\n".toUTF8 0 0),
      (["etc".toList, "raw".toList], .directory),
      (["etc".toList, "l".toList], .link ['.']),
      (["etc".toList, "b.conf".toList], .file "/opt/b\n".toUTF8 0 0)]
  current := []
  rawNames := [(["etc".toList, "raw".toList], rawSettings)]
  unlisted := [["etc".toList, "closed".toList]]

/-- Something of a fitting name stands in each of the three directories, and none of it is gone to. -/
theorem hidingTree_directories :
    hidingTree.WellFormed ∧ hidingTree.Single ∧
      (hidingTree.HasEntry (.ofString "/etc/closed") "a.conf".toList ∧
        Names hidingTree (.ofString "/etc/closed/a.conf") (.ofString "/opt/a") ∧
        includedFiles hidingTree (.ofString "/etc") "closed/*.conf".toList = []) ∧
      (hidingTree.names (.ofString "/etc/raw") = .ok [.ok (.raw rawSettings)] ∧
        rawSettings.bytes = ⟨#[0xff]⟩ ++ ".conf".toUTF8 ∧
        includedFiles hidingTree (.ofString "/etc") "raw/*.conf".toList = []) ∧
      (hidingTree.walk (FileTree.maxLinks + 1) ["etc".toList] (FileTree.namesOf windingDirectory.toList) =
          .ok ["etc".toList] ∧
        hidingTree.HasEntry (.ofString "/etc") "b.conf".toList ∧
        Names hidingTree (.ofString "/etc/b.conf") (.ofString "/opt/b") ∧
        includedFiles hidingTree (.ofString "/etc") (windingDirectory ++ "/*.conf").toList = []) ∧
      settingsDirectories hidingTree systemSettings = [] := by
  have named {file directory : Path} (said : .directory directory ∈ itemsAt hidingTree file) :
      Names hidingTree file directory :=
    directory_mem_itemsAt.mp said
  have closed : hidingTree.locate (.ofString "/etc/closed") = .ok ["etc".toList, "closed".toList] := by decide +kernel
  have above : hidingTree.locate (.ofString "/etc") = .ok ["etc".toList] := by decide +kernel
  have formed : hidingTree.WellFormed := by decide +kernel
  -- The settings themselves name no directory, so all that could be read stands in other files.
  have nothing : settingsDirectories hidingTree systemSettings = [] := by
    have empty : itemsAt hidingTree systemSettings = [] := by decide +kernel
    rw [settingsDirectories, settingsFrom_eq_below, below_succ formed, empty, List.flatMap_nil]
  exact ⟨formed, by decide +kernel,
    ⟨⟨_, closed, by decide +kernel⟩, named (by decide +kernel), by decide +kernel⟩,
    ⟨rfl, rfl, by decide +kernel⟩,
    ⟨by decide +kernel, ⟨_, above, by decide +kernel⟩, named (by decide +kernel), by decide +kernel⟩, nothing⟩

end ModuleScope.Loader
